import DesignKit.Proofs.Congruence

/-! # Levels of nesting

A component gets as many levels as its props are deep, and some more. A node within the props lies at least
two levels deeper than they do, and what a parent adds to its props lies no deeper, so the levels that are
left always suffice for it. More levels than suffice change nothing. -/

namespace DesignKit

/-! ### Depth -/

namespace Value

theorem depthItems_le {items : List Value} {n : Nat} : depthItems items ≤ n ↔ ∀ v ∈ items, v.depth ≤ n := by
  induction items with
  | nil => simp [depthItems]
  | cons v rest ih => rw [depthItems, Nat.max_le, ih, List.forall_mem_cons]

theorem depthMembers_le {m : Members} {n : Nat} : depthMembers m ≤ n ↔ ∀ e ∈ m, e.2.depth ≤ n := by
  induction m with
  | nil => simp [depthMembers]
  | cons entry rest ih => rw [depthMembers, Nat.max_le, ih, List.forall_mem_cons]

theorem depth_object_le {m : Members} {n : Nat} : (object m).depth ≤ n + 1 ↔ ∀ e ∈ m, e.2.depth ≤ n := by
  rw [depth, Nat.add_le_add_iff_right, depthMembers_le]

theorem depth_lt_of_mem {v : Value} {items : List Value} (h : v ∈ items) : v.depth < (list items).depth :=
  Nat.lt_succ_of_le (depthItems_le.mp (Nat.le_refl _) v h)

theorem depth_lt_of_get? {m : Members} {key : String} {v : Value} (h : m.get? key = some v) : v.depth < (object m).depth :=
  Nat.lt_succ_of_le (depthMembers_le.mp (Nat.le_refl _) (key, v) (Members.mem_of_get? h))

theorem depth_of_items {v : Value} {items : List Value} (h : v.items? = some items) :
    ∀ w ∈ items, w.depth ≤ v.depth - 1 := by
  intro w hw
  cases v with
  | list vs =>
    cases h
    exact Nat.le_sub_one_of_lt (depth_lt_of_mem hw)
  | object m =>
    cases h
    obtain ⟨e, -, rfl⟩ := List.mem_map.mp hw
    exact Nat.zero_le _
  | text s =>
    cases h
    obtain ⟨c, -, rfl⟩ := List.mem_map.mp hw
    exact Nat.zero_le _
  | _ => cases h

end Value

namespace Entries

theorem mem_set {entries : Entries} {key v : Value} {e : Value × Value} (h : e ∈ entries.set key v) :
    e ∈ entries ∨ e.2 = v := by
  induction entries with
  | nil =>
    rw [List.mem_singleton.mp h]
    exact .inr rfl
  | cons entry rest ih =>
    obtain ⟨old, w⟩ := entry
    unfold set at h
    split at h
    · rcases List.mem_cons.mp h with rfl | h
      · exact .inr rfl
      · exact .inl (List.mem_cons_of_mem _ h)
    · rcases List.mem_cons.mp h with rfl | h
      · exact .inl List.mem_cons_self
      · exact (ih h).imp_left (List.mem_cons_of_mem _)

theorem depth_of_pair {v key w : Value} (h : pair v = .ok (key, w)) : w.depth ≤ v.depth := by
  simp only [pair] at h
  split at h
  · rename_i hitems
    split at h
    · cases h
      exact Nat.le_trans (Value.depth_of_items hitems w (by simp)) (Nat.sub_le _ _)
    · cases h
  · cases h
  · cases h

theorem depth_of_ofPairs {n : Nat} {vs : List Value} (hvs : ∀ v ∈ vs, v.depth ≤ n) {done entries : Entries}
    (hdone : ∀ e ∈ done, e.2.depth ≤ n) (h : ofPairs done vs = .ok entries) : ∀ e ∈ entries, e.2.depth ≤ n := by
  induction vs generalizing done with
  | nil =>
    cases h
    exact hdone
  | cons v rest ih =>
    unfold ofPairs at h
    split at h
    · rename_i key w hv
      refine ih (fun v hmem => hvs v (List.mem_cons_of_mem _ hmem)) (fun e hmem => ?_) h
      rcases mem_set hmem with hmem | heq
      · exact hdone e hmem
      · rw [heq]
        exact Nat.le_trans (depth_of_pair hv) (hvs v List.mem_cons_self)
    · cases h

theorem depth_of_ofValue {v : Value} {entries : Entries} (h : ofValue v = .ok entries) :
    ∀ e ∈ entries, e.2.depth ≤ v.depth - 1 := by
  unfold ofValue at h
  split at h
  · rename_i m
    cases h
    intro e he
    obtain ⟨e', he', rfl⟩ := List.mem_map.mp he
    exact Value.depthMembers_le.mp (Nat.le_refl _) e' he'
  · split at h
    · rename_i hitems
      exact depth_of_ofPairs (Value.depth_of_items hitems) (by simp) h
    · cases h

theorem depth_toMembers {entries : Entries} {n : Nat} (h : ∀ e ∈ entries, e.2.depth ≤ n) :
    (Value.object entries.toMembers).depth ≤ n + 1 := by
  refine Value.depth_object_le.mpr fun e he => ?_
  rcases Members.mem_update he with he | ⟨e', he', heq⟩
  · cases he
  · obtain ⟨e'', he'', rfl⟩ := List.mem_map.mp he'
    rw [heq]
    exact h e'' he''

end Entries

/-- The props of a node are no deeper than the node. -/
theorem Invocation.depth_props {v : Value} {node : Invocation} (h : ofValue v = .ok node) :
    (Value.object node.props).depth ≤ v.depth := by
  obtain ⟨m, entries, rfl, hentries, rfl⟩ := ofValue_eq_ok h
  refine Entries.depth_toMembers fun e he => Nat.le_trans (Entries.depth_of_ofValue hentries e he) ?_
  show _ - 1 ≤ Value.depthMembers m
  unfold Members.get
  cases hget : m.get? "props" with
  | none => exact Nat.zero_le _
  | some props =>
    have hlt : props.depth < Value.depthMembers m + 1 := Value.depth_lt_of_get? hget
    rw [Option.getD_some]
    unfold Value.orElse
    split
    · omega
    · exact Nat.zero_le _

/-- The slots of a schema declare neither lists nor objects. -/
def Schema.isFlat (s : Schema) : Bool :=
  (s.children.getD []).all fun slot => slot.defaults.all fun e => e.2.depth == 0

theorem Bundled.isFlat_schema (b : Bundled) : b.schema.isFlat = true := by
  cases b <;> decide

theorem Schema.depth_slot {s : Schema} (h : s.isFlat = true) {index : Int} {slot : Slot} (hs : s.slot? index = some slot) :
    ∀ e ∈ slot.defaults, e.2.depth = 0 := by
  intro e he
  simpa using List.all_eq_true.mp (List.all_eq_true.mp h slot (mem_of_slot? hs)) e he

/-- What a parent adds to the props of a child lies no deeper than they do. -/
theorem Composition.depth_childProps {parent : Schema} (h : parent.isFlat = true) (index : Nat) (props : Members) :
    (Value.object (childProps parent index props)).depth ≤ (Value.object props).depth := by
  have hprops := Value.depthMembers_le.mp (Nat.le_refl (Value.depthMembers props))
  refine Value.depth_object_le.mpr fun e he => ?_
  rcases Members.mem_set he with he | heq
  · unfold Schema.place at he
    split at he
    · rename_i slot hslot
      rcases Members.mem_update he with he | ⟨e', he', heq⟩
      · rw [Schema.depth_slot h hslot e he]
        exact Nat.zero_le _
      · rw [heq]
        exact hprops e' he'
    · exact hprops e he
  · rw [heq]
    exact Nat.zero_le _

/-! ### More levels -/

/-- The right rendering has more levels: it is the same unless the left one had too few. -/
def Deepens {α : Type} (x y : Render α) : Prop :=
  x.result = .error .nestedTooDeep ∨ y = x

namespace Deepens

theorem bind {α β : Type} {x y : Render α} {f g : α → Render β} (h : Deepens x y)
    (hf : ∀ a, y.result = .ok a → Deepens (f a) (g a)) : Deepens (x >>= f) (y >>= g) := by
  rcases h with hdeep | rfl
  · exact .inl (by rw [Render.bind_of_error hdeep])
  · cases hr : y.result with
    | error fault =>
      rw [Render.bind_of_error hr, Render.bind_of_error hr]
      exact .inr rfl
    | ok a =>
      rw [Render.bind_of_ok hr, Render.bind_of_ok hr]
      rcases hf a hr with hdeep | heq
      · exact .inl hdeep
      · exact .inr (by rw [heq])

/-- Having more levels is kept by composing renderings. -/
def congruence : Congruence where
  rel := Deepens
  calm _ := .inr rfl
  bind := bind

end Deepens

namespace Renderer
variable {policy : Policy}

theorem deepens_component {depth depth' : Nat} (hle : depth ≤ depth') {name : String} {b : Bundled}
    (hb : Bundled.ofName? name = some b) (props : Value) :
    Deepens ((bundle policy).component depth (.text name) props) ((bundle policy).component depth' (.text name) props) := by
  -- On the levels of the left side: the nested components of both sides have one level less.
  induction depth generalizing depth' name b props with
  | zero => exact .inl rfl
  | succ depth ih =>
    obtain ⟨depth', rfl⟩ : ∃ d, depth' = d + 1 := ⟨depth' - 1, by omega⟩
    have hnested := related_bundle (R := Deepens.congruence) (p := policy) (q := policy)
      (f := (bundle policy).component depth) (g := (bundle policy).component depth') (fun _ _ => .inr rfl)
      fun _ _ hb props => ih (Nat.le_of_succ_le_succ hle) hb props
    exact component_related hnested hb props

/-- A component that could be rendered is rendered alike with more levels. -/
theorem component_of_le {depth depth' : Nat} (hle : depth ≤ depth') {type props : Value} {m : Markup}
    (h : ((bundle policy).component depth type props).result = .ok m) :
    ((bundle policy).component depth' type props).result = .ok m := by
  obtain ⟨name, b, rfl, hb⟩ := known_of_component h
  rcases deepens_component hle hb props with hdeep | heq
  · rw [hdeep] at h
    cases h
  · rw [heq]
    exact h

end Renderer
end DesignKit
