import DesignKit.Proofs.Precedence
import DesignKit.Proofs.Substance
import DesignKit.Proofs.Wrapper
import Mathlib.Data.List.Forall2

/-! # Where nothing shows

A component prints the empty text exactly when it is blank, and otherwise from an opening tag to a closing tag. So
the children that a container or a section shows are those that are neither blank nor skipped, and each of the others
leaves no trace between them. -/

namespace DesignKit
open Markup

theorem Markup.print_joinLines_eq_intercalate (l : List Markup) : (joinLines l).print = "\n".intercalate (l.map print) := by
  induction l with
  | nil => rfl
  | cons m rest ih =>
    cases rest with
    | nil =>
      rw [joinLines, print_cons_embedded, List.map_singleton, String.intercalate_singleton]
      exact String.append_empty
    | cons n others =>
      have hcons : joinLines (m :: n :: others) = .embedded m :: newline :: joinLines (n :: others) := rfl
      rw [hcons, print_cons_embedded, print_cons_newline, ih, List.map_cons, List.map_cons, List.map_cons,
        String.intercalate_cons_cons, String.append_assoc]

namespace Bundled.Shows
variable {b : Bundled} {bag : Members} {m : Markup}

theorem isElement (h : b.Shows bag m) (hb : b.isBlank bag = false) : m.IsElement := by
  rwa [Shows, if_neg (Bool.eq_false_iff.mp hb)] at h

theorem print_eq_empty_iff (h : b.Shows bag m) : m.print = "" ↔ b.isBlank bag = true := by
  constructor
  · intro hempty
    by_contra hb
    obtain ⟨tag, items, content, rfl⟩ := h.isElement (Bool.eq_false_iff.mpr hb)
    cases h.substantial hempty
  · intro hb
    rw [Shows, if_pos hb] at h
    rw [h]
    rfl

end Bundled.Shows

/-! ### Children of a wrapper -/

namespace Wrapper

/-- A child is left out of a wrapper: its type is unknown and skipped, or its component is blank for the bag that it is
handed at its index. -/
def drops (w : Wrapper) (policy : Policy) (index : Nat) (node : Invocation) : Bool :=
  match Bundled.ofName? node.type with
  | none => policy == .skip
  | some b => b.isBlank (b.schema.handed (Composition.childProps w.bundled.schema index node.props))

/-- The text of an entry at an index, rendered as a child of a wrapper: it is empty exactly when the entry is left out,
and otherwise goes from an opening tag to a closing tag. -/
def ShowsChild (w : Wrapper) (policy : Policy) (levels : Nat) (entry : Value × Nat) (text : String) : Prop :=
  ∃ node m, Invocation.ofValue entry.1 = .ok node ∧
    (((Renderer.bundle policy).composition ((Renderer.bundle policy).component levels)).childAt w.bundled.schema entry.2
      entry.1).result = .ok m ∧
    text = m.print ∧ (text = "" ↔ w.drops policy entry.2 node = true) ∧ (text ≠ "" → ∃ middle, text = "<" ++ middle ++ ">")

end Wrapper

namespace Renderer
variable {policy : Policy}

/-- A component of the library shows what its bag says. -/
theorem shows_of_component {r : Renderer} {name : String} {b : Bundled} (hr : r.registry.find? name = some (.bundled b))
    {levels : Nat} {props : Value} {m : Markup} (hm : (r.component (levels + 1) (.text name) props).result = .ok m) :
    ∃ bag, (r.fill name props).result = .ok bag ∧ b.Shows bag m := by
  have hfunction : r.function (.text name) = .ok (name, .bundled b) := by
    rw [function, hr]
  simp only [component, hfunction, Render.monadLift_eq, Render.lift_ok, pure_bind] at hm
  obtain ⟨bag, hbag, htemplate⟩ := Render.bind_eq_ok.mp hm
  exact ⟨bag, hbag, b.template_shows _ bag m htemplate⟩

theorem shows_childAt {w : Wrapper} {levels index : Nat} {entry : Value} {m : Markup}
    (hm : (((bundle policy).composition ((bundle policy).component levels)).childAt w.bundled.schema index
      entry).result = .ok m) : w.ShowsChild policy levels (entry, index) m.print ∧ m.Substantial := by
  obtain ⟨node, hnode, h⟩ := Render.bind_eq_ok.mp hm
  obtain ⟨admitted, hadmitted, h⟩ := Render.bind_eq_ok.mp h
  cases admitted with
  | false =>
    obtain ⟨hunknown, hpolicy⟩ := Composition.admits_eq_false hadmitted
    rw [isRegistered_bundle, Option.isSome_eq_false_iff, Option.isNone_iff_eq_none] at hunknown
    cases h
    have hdrops : w.drops policy index node = true := by
      rw [Wrapper.drops, hunknown]
      exact beq_iff_eq.mpr hpolicy
    exact ⟨⟨node, [], hnode, hm, rfl, iff_of_true rfl hdrops, fun hne => absurd rfl hne⟩, substantial_nil⟩
  | true =>
    obtain ⟨name, b, htype, hb⟩ := known_of_component h
    obtain rfl : node.type = name := Value.text.inj htype
    obtain ⟨levels, rfl⟩ : ∃ n, levels = n + 1 := by
      cases levels with
      | zero => cases h
      | succ n => exact ⟨n, rfl⟩
    have hregistered : (bundle policy).registry.find? node.type = some (.bundled b) := by
      rw [show (bundle policy).registry = Registry.bundle from rfl, Registry.find?_bundle, hb, Option.map_some]
    obtain ⟨bag, hbag, hshows⟩ := shows_of_component hregistered h
    obtain rfl : bag = b.schema.handed (Composition.childProps w.bundled.schema index node.props) := by
      rw [fill_bundle hb, Members.ofOptional_object] at hbag
      cases hbag
      rfl
    have hempty : m.print = "" ↔ w.drops policy index node = true := by
      rw [Wrapper.drops, hb]
      exact hshows.print_eq_empty_iff
    refine ⟨⟨node, m, hnode, hm, rfl, hempty, fun hne => ?_⟩, hshows.substantial⟩
    exact (hshows.isElement (Bool.eq_false_iff.mpr fun hblank => hne (hshows.print_eq_empty_iff.mpr hblank))).print_eq

/-- The children that are found are those whose text is not empty. -/
theorem shows_childList {w : Wrapper} {levels index : Nat} {entries : List Value} {found : List Markup}
    (h : (((bundle policy).composition ((bundle policy).component levels)).childList w.bundled.schema index
      entries).result = .ok found) :
    ∃ texts, List.Forall₂ (w.ShowsChild policy levels) (entries.zipIdx index) texts ∧
      found.map print = texts.filter (· ≠ "") := by
  induction entries generalizing index found with
  | nil =>
    cases h
    exact ⟨[], .nil, rfl⟩
  | cons entry rest ih =>
    rw [Composition.childList_cons] at h
    obtain ⟨m, hm, h⟩ := Render.bind_eq_ok.mp h
    obtain ⟨others, hothers, h⟩ := Render.bind_eq_ok.mp h
    obtain ⟨texts, htexts, hfound⟩ := ih hothers
    cases h
    obtain ⟨hchild, hsubstantial⟩ := shows_childAt hm
    exact ⟨m.print :: texts, .cons hchild htexts, map_print_kept hsubstantial hfound⟩

/-- The children of a wrapper are joined by line breaks, without those that are left out. -/
theorem shows_wrapper {w : Wrapper} {levels : Nat} {props : Value} {m : Markup}
    (hm : ((bundle policy).component (levels + 1) (.text w.bundled.name) props).result = .ok m) :
    ∃ bag texts, ((bundle policy).fill w.bundled.name props).result = .ok bag ∧
      List.Forall₂ (w.ShowsChild policy levels) (((bag.get "children").items?.getD []).zipIdx) texts ∧
      m.print = w.opening bag ++ "\n".intercalate (texts.filter (· ≠ "")) ++ w.closing := by
  rw [component_bundle w.ofName?_bundled] at hm
  obtain ⟨bag, hbag, hm⟩ := Render.bind_eq_ok.mp hm
  rw [Wrapper.template_eq] at hm
  obtain ⟨content, hcontent, hm⟩ := Render.bind_eq_ok.mp hm
  cases hm
  refine ⟨bag, ?_⟩
  rw [Wrapper.print_markup]
  unfold Composition.children at hcontent
  split at hcontent
  · obtain ⟨parent, hparent, hcontent⟩ := Render.bind_eq_ok.mp hcontent
    obtain ⟨entries, hentries, hcontent⟩ := Render.bind_eq_ok.mp hcontent
    obtain ⟨found, hfound, hcontent⟩ := Render.bind_eq_ok.mp hcontent
    cases hcontent
    rw [w.parentSchema_bundled] at hparent
    cases hparent
    obtain ⟨texts, htexts, hprints⟩ := shows_childList hfound
    refine ⟨texts, hbag, ?_, ?_⟩
    · rw [Helper.items_eq_ok.mp hentries]
      exact htexts
    · rw [print_joinLines_eq_intercalate, hprints]
  · rename_i hfalsy
    cases hcontent
    refine ⟨[], hbag, ?_, rfl⟩
    rw [Value.items?_of_falsy (Bool.eq_false_iff.mpr hfalsy)]
    exact .nil

/-- Every component of the library prints the empty text exactly when it is blank, and otherwise from an opening tag to a
closing tag. So the children that a wrapper leaves out are those that are blank and those that are skipped as unknown. -/
theorem print_eq_empty_iff_isBlank :
    (∀ (r : Renderer) (name : String) (b : Bundled), r.registry.find? name = some (.bundled b) →
      ∀ (levels : Nat) (props : Value) (m : Markup), (r.component (levels + 1) (.text name) props).result = .ok m →
      ∃ bag, (r.fill name props).result = .ok bag ∧ (m.print = "" ↔ b.isBlank bag = true) ∧
        (b.isBlank bag = false → ∃ middle, m.print = "<" ++ middle ++ ">")) ∧
    (∀ (policy : Policy) (w : Wrapper) (levels : Nat) (props : Value) (m : Markup),
      ((bundle policy).component (levels + 1) (.text w.bundled.name) props).result = .ok m →
      ∃ bag texts, ((bundle policy).fill w.bundled.name props).result = .ok bag ∧
        List.Forall₂ (w.ShowsChild policy levels) (((bag.get "children").items?.getD []).zipIdx) texts ∧
        m.print = w.opening bag ++ "\n".intercalate (texts.filter (· ≠ "")) ++ w.closing) := by
  refine ⟨fun r name b hr levels props m hm => ?_, fun policy w levels props m hm => shows_wrapper hm⟩
  obtain ⟨bag, hbag, hshows⟩ := shows_of_component hr hm
  exact ⟨bag, hbag, hshows.print_eq_empty_iff, fun hb => (hshows.isElement hb).print_eq⟩

/-- A badge without a text, a component that the library does not have, and a badge with a text. -/
def siblings : List Value := [
  .object [("type", .text "badge"), ("props", .object [("text", .bool false)])],
  .object [("type", .text "chart")],
  .object [("type", .text "badge"), ("props", .object [("text", .int 7)])]]

theorem print_eq_empty_iff_isBlank_siblings :
    (∃ m, ((bundle .refuse).component 1 (.text "intro") (.object [("title", .list []), ("eyebrow", .int 0),
      ("subtitle", .text "")])).result = .ok m ∧ m.print = "") ∧
    ∃ m, ((bundle .skip).component 2 (.text "section") (.object [("children", .list siblings)])).result = .ok m ∧
      ∃ (bag : Members) (middle : String),
        m.print = Wrapper.section.opening bag ++ ("<" ++ middle ++ ">") ++ Wrapper.section.closing := by
  constructor
  · refine exists_ok (by decide +kernel) fun m hm => ?_
    obtain ⟨bag, hbag, hempty, -⟩ := print_eq_empty_iff_isBlank.1 (bundle .refuse) "intro" .intro rfl 0 _ m hm
    cases hbag
    exact hempty.mpr (by decide)
  · refine exists_ok (by decide +kernel) fun m hm => ?_
    obtain ⟨bag, texts, hbag, htexts, hprint⟩ := print_eq_empty_iff_isBlank.2 .skip .section 1 _ m hm
    refine ⟨bag, ?_⟩
    cases hbag
    change List.Forall₂ _ siblings.zipIdx texts at htexts
    obtain ⟨first, _, ⟨_, _, hfirst, -, -, hblank, -⟩, hrest, rfl⟩ := List.forall₂_cons_left_iff.mp htexts
    obtain ⟨second, _, ⟨_, _, hsecond, -, -, hunknown, -⟩, hlast, rfl⟩ := List.forall₂_cons_left_iff.mp hrest
    obtain ⟨third, _, ⟨_, _, hthird, -, -, hshown, hmiddle⟩, hnone, rfl⟩ := List.forall₂_cons_left_iff.mp hlast
    obtain rfl := List.forall₂_nil_left_iff.mp hnone
    cases hfirst
    cases hsecond
    cases hthird
    have hne : third ≠ "" := fun hempty => absurd (hshown.mp hempty) (by decide)
    obtain ⟨middle, hmiddle⟩ := hmiddle hne
    refine ⟨middle, ?_⟩
    rw [hprint, hblank.mpr (by decide), hunknown.mpr rfl, hmiddle]
    simp

end Renderer
end DesignKit
