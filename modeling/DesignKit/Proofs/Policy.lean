import DesignKit.Proofs.Congruence

/-! # The policies compared

A rendering that refuses unknown children and one that skips them do the same until the first unknown child:
there the one fails, and the other warns of the same type and goes on. -/

namespace DesignKit

/-- The left rendering refuses what the right one skips. They are equal and warn of nothing unless the left
one fails for an unknown component; then the first warning of the right one is about it. The right one never
fails for an unknown component. -/
structure Refuses {α : Type} (x y : Render α) : Prop where
  same : Plain x.result → y = x ∧ x.warnings = []
  warned : ∀ name, x.result = .error (.unknownComponent name) →
    ∃ index, y.warnings.head? = (Event.skipped name index).warning?
  plain : Plain y.result

namespace Refuses
variable {α β : Type} {x y : Render α} {f g : α → Render β}

theorem of_calm (h : x.Calm) : Refuses x x where
  same _ := ⟨rfl, h.silent⟩
  warned name heq := absurd heq (h.plain name)
  plain := h.plain

theorem head?_warnings_bind {w : Option String} (hw : w.isSome) (h : y.warnings.head? = w) :
    (y >>= g).warnings.head? = w := by
  cases hy : y.result with
  | error fault => rw [Render.warnings_bind_of_error hy, h]
  | ok a =>
    rw [Render.warnings_bind_of_ok hy, List.head?_append, h]
    exact Option.or_of_isSome hw

theorem isSome_warning?_skipped (name : String) (index : Option Int) : (Event.skipped name index).warning?.isSome := by
  cases index <;> rfl

theorem bind (h : Refuses x y) (hf : ∀ a, y.result = .ok a → Refuses (f a) (g a)) : Refuses (x >>= f) (y >>= g) where
  same hp := by
    have hx : Plain x.result := fun name heq => hp name (by rw [Render.bind_of_error heq])
    -- Nothing was refused in the first step, so both went through it alike.
    obtain ⟨rfl, hsilent⟩ := h.same hx
    cases hr : y.result with
    | error fault =>
      refine ⟨?_, (Render.warnings_bind_of_error hr f).trans hsilent⟩
      rw [Render.bind_of_error hr, Render.bind_of_error hr]
    | ok a =>
      rw [Render.bind_of_ok hr] at hp
      obtain ⟨heq, hrest⟩ := (hf a hr).same hp
      refine ⟨?_, ?_⟩
      · rw [Render.bind_of_ok hr, Render.bind_of_ok hr, heq]
      · rw [Render.warnings_bind_of_ok hr, hsilent, hrest]
        rfl
  warned name hn := by
    cases hr : x.result with
    | error fault =>
      rw [Render.bind_of_error hr] at hn
      cases hn
      obtain ⟨index, hindex⟩ := h.warned name hr
      exact ⟨index, head?_warnings_bind (isSome_warning?_skipped name index) hindex⟩
    | ok a =>
      rw [Render.bind_of_ok hr] at hn
      obtain ⟨rfl, hsilent⟩ := h.same (hr ▸ Plain.ok)
      obtain ⟨index, hindex⟩ := (hf a hr).warned name hn
      refine ⟨index, ?_⟩
      rw [Render.warnings_bind_of_ok hr, hsilent]
      exact hindex
  plain := by
    cases hr : y.result with
    | error fault =>
      rw [Render.bind_of_error hr]
      exact Plain.error fun name heq => h.plain name (by rw [hr, heq])
    | ok a =>
      rw [Render.bind_of_ok hr]
      exact (hf a hr).plain

/-- What the policies do with a child of an unknown type. -/
theorem unknown (shown : String) (index : Option Int) :
    Refuses (Render.fail (.unknownComponent shown)) (do
      Render.log (.skipped shown index)
      return false) where
  same hp := absurd rfl (hp shown)
  warned name hn := by
    cases hn
    refine ⟨index, ?_⟩
    cases index <;> rfl
  plain := Plain.ok

/-- Refusing is kept by composing renderings. -/
def congruence : Congruence where
  rel := Refuses
  calm := of_calm
  bind := bind

end Refuses

namespace Renderer

theorem refuses_admits (f g : Value → Value → Render Markup) (type : Option Value) (index : Option Int) :
    Refuses (((bundle .refuse).composition f).admits type index) (((bundle .skip).composition g).admits type index) := by
  rcases type with _ | v
  · exact Refuses.unknown _ _
  · cases v with
    | text name =>
      simp only [Composition.admits, isRegistered_bundle]
      split
      · exact Refuses.of_calm Render.Calm.pure
      · exact Refuses.unknown _ _
    | list items => exact Refuses.of_calm (Render.Calm.fail fun _ h => by cases h)
    | object members => exact Refuses.of_calm (Render.Calm.fail fun _ h => by cases h)
    | _ => exact Refuses.unknown _ _

/-- A component of the library is rendered alike under both policies up to the first unknown component, at
whatever level that lies. -/
theorem refuses_component (depth : Nat) {name : String} {b : Bundled} (hb : Bundled.ofName? name = some b) (props : Value) :
    Refuses ((bundle .refuse).component depth (.text name) props) ((bundle .skip).component depth (.text name) props) := by
  induction depth generalizing name b props with
  | zero => exact Refuses.of_calm (Render.Calm.fail fun _ h => by cases h)
  | succ depth ih =>
    have hnested := related_bundle (R := Refuses.congruence) (refuses_admits _ _) fun _ _ hb props => ih hb props
    exact component_related hnested hb props

theorem renderNode_unknown (policy : Policy) {node : Invocation} (h : Registry.bundle.find? node.type = none) :
    ((bundle policy).renderNode node).result = .error (.unknownComponent node.type) := by
  have hfunction : (bundle policy).function (.text node.type) = .error (.unknownComponent node.type) := by
    simp only [function, bundle, h]
  exact congrArg Render.result (component_of_error hfunction _ _)

theorem render_of_ofValue (policy : Policy) {v : Value} {node : Invocation} (h : Invocation.ofValue v = .ok node) :
    (bundle policy).render v = (bundle policy).renderNode node := by
  simp only [render, h, Render.monadLift_eq, Render.lift_ok, pure_bind]

/-- A node whose type is known, or that is none at all, is refused where it is skipped. -/
theorem refuses_render {v : Value}
    (h : ∀ node, Invocation.ofValue v = .ok node → (Registry.bundle.find? node.type).isSome) :
    Refuses ((bundle .refuse).render v) ((bundle .skip).render v) := by
  refine Refuses.bind (Refuses.of_calm (Render.Calm.lift (Invocation.plain_ofValue v))) fun node hn => ?_
  have hfound := h node hn
  rw [Registry.find?_bundle, Option.isSome_map] at hfound
  obtain ⟨b, hb⟩ := Option.isSome_iff_exists.mp hfound
  exact refuses_component _ hb _

/-- The two policies give the same page, or the same fault, unless a component within the node is unknown.
Then the one fails for its type, and the first warning of the other is about that type. A node that is itself
of an unknown type fails under both. -/
theorem render_policies (v : Value) :
    (∀ m, ((bundle .refuse).render v).result = .ok m →
      ((bundle .skip).render v).result = .ok m ∧ ((bundle .skip).render v).warnings = []) ∧
    (∀ fault, ((bundle .refuse).render v).result = .error fault → (∀ name, fault ≠ .unknownComponent name) →
      ((bundle .skip).render v).result = .error fault) ∧
    (∀ node, Invocation.ofValue v = .ok node → Registry.bundle.find? node.type = none → ∀ policy,
      ((bundle policy).render v).result = .error (.unknownComponent node.type)) ∧
    ((∀ node, Invocation.ofValue v = .ok node → (Registry.bundle.find? node.type).isSome) →
      (∀ name, ((bundle .refuse).render v).result = .error (.unknownComponent name) →
        ∃ index, ((bundle .skip).render v).warnings.head? = (Event.skipped name index).warning?) ∧
      ∀ name, ((bundle .skip).render v).result ≠ .error (.unknownComponent name)) := by
  have hunknown : ∀ node, Invocation.ofValue v = .ok node → Registry.bundle.find? node.type = none → ∀ policy,
      ((bundle policy).render v).result = .error (.unknownComponent node.type) := fun node hn ht policy => by
    rw [render_of_ofValue policy hn, renderNode_unknown policy ht]
  rcases Classical.em (∃ node, Invocation.ofValue v = .ok node ∧ Registry.bundle.find? node.type = none) with
    ⟨node, hn, ht⟩ | hknown
  · -- The node itself is of an unknown type, and no policy applies to it.
    have hrefused := hunknown node hn ht .refuse
    refine ⟨fun m hm => ?_, fun fault hf hplain => ?_, hunknown, fun h => ?_⟩
    · rw [hrefused] at hm
      cases hm
    · rw [hrefused] at hf
      cases hf
      exact absurd rfl (hplain node.type)
    · have := h node hn
      rw [ht] at this
      cases this
  · have hsome : ∀ node, Invocation.ofValue v = .ok node → (Registry.bundle.find? node.type).isSome := fun node hn =>
      Option.isSome_iff_ne_none.mpr fun ht => hknown ⟨node, hn, ht⟩
    have h := refuses_render hsome
    refine ⟨fun m hm => ?_, fun fault hf hplain => ?_, hunknown, fun _ => ⟨h.warned, h.plain⟩⟩
    · obtain ⟨heq, hsilent⟩ := h.same (hm ▸ Plain.ok)
      rw [heq]
      exact ⟨hm, hsilent⟩
    · obtain ⟨heq, -⟩ := h.same (hf ▸ Plain.error hplain)
      rw [heq]
      exact hf

theorem render_policies_nested :
    ∃ index, ((bundle .skip).render (.object [("type", .text "container"), ("props", .object [("children", .list [
      .object [("type", .text "table"), ("props", .object [("data", .list [.object []]),
        ("actions", .list [.object [("name", .text "chart")]])])]])])])).warnings.head? =
      (Event.skipped "chart" index).warning? := by
  refine ((render_policies _).2.2.2 fun node hn => ?_).1 "chart" rfl
  cases hn
  rfl

end Renderer
end DesignKit
