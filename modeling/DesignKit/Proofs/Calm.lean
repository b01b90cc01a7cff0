import DesignKit.Bundle
import DesignKit.Proofs.Children

/-! # Calm renderings

A rendering is calm when it neither fails for an unknown component nor warns of anything. What a template
does on its own is calm: only the components that it composes can disturb it. -/

namespace DesignKit

/-- A step that does not fail for an unknown component. -/
def Plain {α : Type} (x : Except Fault α) : Prop :=
  ∀ name, x ≠ .error (.unknownComponent name)

namespace Plain
variable {α β : Type}

theorem ok {a : α} : Plain (.ok a) := by
  intro name h
  cases h

theorem error {fault : Fault} (h : ∀ name, fault ≠ .unknownComponent name) : Plain (.error fault : Except Fault α) := by
  intro name heq
  cases heq
  exact h name rfl

theorem bind {x : Except Fault α} {f : α → Except Fault β} (hx : Plain x) (hf : ∀ a, Plain (f a)) :
    Plain (x >>= f) := by
  cases x with
  | error fault => exact error fun name heq => hx name (by rw [heq])
  | ok a => exact hf a

theorem map {x : Except Fault α} (f : α → β) (hx : Plain x) : Plain (f <$> x) := by
  cases x with
  | error fault => exact error fun name heq => hx name (by rw [heq])
  | ok a => exact ok

theorem mapM {f : α → Except Fault β} (hf : ∀ a, Plain (f a)) (l : List α) : Plain (l.mapM f) := by
  induction l with
  | nil => exact ok
  | cons a rest ih =>
    rw [List.mapM_cons]
    exact bind (hf a) fun _ => bind ih fun _ => ok

end Plain

/-! ### Helpers -/

namespace Helper

theorem plain_chosenNames (entries : Entries) : Plain (chosenNames entries) := by
  induction entries with
  | nil => exact Plain.ok
  | cons entry rest ih =>
    obtain ⟨name, condition⟩ := entry
    unfold chosenNames
    split
    · split
      · exact Plain.map _ ih
      · exact Plain.error nofun
    · exact ih

theorem plain_classes (entries : List (Value × Value)) : Plain (classes entries) := by
  unfold classes
  split
  · exact Plain.map _ (plain_chosenNames _)
  · exact Plain.error nofun

theorem plain_integer (default : Int) (v : Value) : Plain (integer default v) := by
  unfold integer
  split
  · split
    · exact Plain.ok
    · split <;> exact Plain.ok
  · split
    · exact Plain.ok
    · split
      · exact Plain.ok
      · exact Plain.error nofun
  · exact Plain.ok

theorem plain_occurs (v container : Value) : Plain (occurs v container) := by
  unfold occurs
  split
  · exact Plain.ok
  · split
    · exact Plain.ok
    · exact Plain.error nofun
  · split
    · exact Plain.ok
    · exact Plain.error nofun
  · exact Plain.error nofun

theorem plain_member (v : Value) (key : String) (default : Value) : Plain (member v key default) := by
  unfold member
  split
  · exact Plain.ok
  · exact Plain.error nofun

theorem plain_memberAt (v key default : Value) : Plain (memberAt v key default) := by
  unfold memberAt
  split
  · exact Plain.error nofun
  · split
    · exact Plain.ok
    · split
      · exact Plain.ok
      · exact Plain.error nofun

theorem plain_items (v : Value) : Plain (items v) := by
  unfold items
  split
  · exact Plain.ok
  · exact Plain.error nofun

end Helper

/-! ### Bags and nodes -/

namespace Entries

theorem plain_pair (v : Value) : Plain (pair v) := by
  simp only [pair]
  split
  · split
    · exact Plain.ok
    · exact Plain.error nofun
  · exact Plain.error nofun
  · exact Plain.error nofun

theorem plain_ofPairs (done : Entries) (vs : List Value) : Plain (ofPairs done vs) := by
  induction vs generalizing done with
  | nil => exact Plain.ok
  | cons v rest ih =>
    unfold ofPairs
    have hpair := plain_pair v
    cases hv : pair v with
    | ok entry => exact ih _
    | error fault =>
      rw [hv] at hpair
      exact Plain.error fun name heq => hpair name (by rw [heq])

theorem plain_ofValue (v : Value) : Plain (ofValue v) := by
  unfold ofValue
  split
  · exact Plain.ok
  · split
    · exact plain_ofPairs _ _
    · exact Plain.error nofun

end Entries

theorem Members.plain_ofValue (v : Value) : Plain (Members.ofValue v) :=
  Plain.map _ (Entries.plain_ofValue v)

theorem Schema.plain_placeValue (s : Schema) (index : Int) (props : Value) : Plain (s.placeValue index props) := by
  unfold placeValue
  split
  · exact Plain.ok
  · exact Plain.error nofun
  · exact Plain.ok

theorem Invocation.plain_ofValue (v : Value) : Plain (ofValue v) := by
  unfold ofValue
  split
  · exact Plain.error nofun
  · refine Plain.bind (Entries.plain_ofValue _) fun entries => ?_
    split
    · exact Plain.ok
    · exact Plain.error nofun

theorem Hero.plain_childBag (parent : Schema) (index : Nat) (props : Value) : Plain (childBag parent index props) :=
  Plain.bind (Schema.plain_placeValue _ _ _) fun _ => Plain.bind (Members.plain_ofValue _) fun _ => Plain.ok

/-! ### Renderings -/

namespace Render
variable {α β : Type}

/-- A rendering that neither fails for an unknown component nor warns. -/
structure Calm (x : Render α) : Prop where
  plain : Plain x.result
  silent : x.warnings = []

theorem warnings_bind_of_ok {x : Render α} {a : α} (h : x.result = .ok a) (f : α → Render β) :
    (x >>= f).warnings = x.warnings ++ (f a).warnings := by
  rw [bind_of_ok h]
  exact List.filterMap_append

theorem warnings_bind_of_error {x : Render α} {fault : Fault} (h : x.result = .error fault) (f : α → Render β) :
    (x >>= f).warnings = x.warnings := by
  rw [bind_of_error h]
  rfl

namespace Calm

theorem pure {a : α} : Calm (Pure.pure a) := ⟨Plain.ok, rfl⟩

theorem lift {x : Except Fault α} (h : Plain x) : Calm (Render.lift x) := ⟨h, rfl⟩

theorem fail {fault : Fault} (h : ∀ name, fault ≠ .unknownComponent name) : Calm (Render.fail fault : Render α) :=
  ⟨Plain.error h, rfl⟩

theorem consulted {name : String} : Calm (log (.consulted name)) := ⟨Plain.ok, rfl⟩

theorem bind {x : Render α} {f : α → Render β} (hx : Calm x) (hf : ∀ a, Calm (f a)) : Calm (x >>= f) := by
  cases hr : x.result with
  | error fault =>
    refine ⟨?_, (warnings_bind_of_error hr f).trans hx.silent⟩
    rw [bind_of_error hr]
    exact Plain.error fun name heq => hx.plain name (by rw [hr, heq])
  | ok a =>
    refine ⟨?_, ?_⟩
    · rw [bind_of_ok hr]
      exact (hf a).plain
    · rw [warnings_bind_of_ok hr, hx.silent, (hf a).silent]
      rfl

end Calm
end Render

/-! ### Templates without children -/

section
open Render
variable (c : Composition) (props : Members)

theorem Badge.calm_template : (template c props).Calm := by
  have hcss : Plain (classNames props) := Helper.plain_classes _
  simp only [template]
  split
  · exact Calm.bind (Calm.lift hcss) fun _ => Calm.pure
  · exact Calm.pure

theorem Button.calm_template : (template c props).Calm := by
  have hcss : Plain (classNames props) := Helper.plain_classes _
  simp only [template]
  refine Calm.bind (Calm.lift hcss) fun _ => ?_
  split <;> exact Calm.pure

theorem Card.calm_template : (template c props).Calm := by
  have hcss : Plain (classNames props) := Helper.plain_classes _
  exact Calm.bind (Calm.lift hcss) fun _ => Calm.pure

theorem CodeBlock.calm_template : (template c props).Calm := by
  have hcss : Plain (classNames props) := Helper.plain_classes _
  simp only [template]
  split
  · exact Calm.bind (Calm.lift hcss) fun _ => Calm.pure
  · exact Calm.pure

theorem Faq.calm_template : (template c props).Calm := by
  have hcss : Plain (classNames props) := Helper.plain_classes _
  exact Calm.bind (Calm.lift hcss) fun _ => Calm.pure

theorem Intro.calm_template : (template c props).Calm := by
  simp only [template]
  split <;> exact Calm.pure

theorem Stats.calm_template : (template c props).Calm := Calm.pure

theorem Testimonial.calm_template : (template c props).Calm := by
  have hrating : Plain (ratingOf props) := Plain.bind (Helper.plain_integer _ _) fun _ => Plain.ok
  exact Calm.bind (Calm.lift hrating) fun _ => Calm.bind (Calm.lift (Helper.plain_classes _)) fun _ => Calm.pure

namespace Select

theorem plain_choice (v : Value) : Plain (Choice.ofValue v) :=
  Plain.bind (Helper.plain_member _ _ _) fun _ => Plain.bind (Helper.plain_member _ _ _) fun _ => Plain.ok

theorem plain_choices : Plain (choices props) :=
  Plain.bind (Helper.plain_items _) fun _ => Plain.mapM plain_choice _

theorem plain_isChecked (checkboxes : Bool) (value chosen : Value) : Plain (isChecked checkboxes value chosen) := by
  unfold isChecked
  split
  · split
    · exact Helper.plain_occurs _ _
    · exact Plain.ok
  · split
    · exact Helper.plain_occurs _ _
    · exact Plain.ok
  · exact Plain.ok

theorem plain_allInputLines (p : Parts) (display : Value) (index : Nat) (options : List Value) :
    Plain (allInputLines p display index options) := by
  induction options generalizing index with
  | nil => exact Plain.ok
  | cons option rest ih =>
    refine Plain.bind (Helper.plain_member _ _ _) fun _ => Plain.bind (plain_isChecked _ _ _) fun _ => ?_
    exact Plain.bind (plain_choice _) fun _ => Plain.bind (ih _) fun _ => Plain.ok

theorem calm_template : (template c props).Calm := by
  have hparts : Plain (Parts.ofProps props) := Plain.bind (Helper.plain_classes _) fun _ => Plain.ok
  simp only [template]
  refine Calm.bind (Calm.lift hparts) fun p => ?_
  split
  · exact Calm.bind (Calm.lift (plain_choices _)) fun _ => Calm.pure
  · split
    · exact Calm.bind (Calm.lift (plain_choices _)) fun _ => Calm.pure
    · refine Calm.bind (Calm.lift (Helper.plain_items _)) fun options => ?_
      exact Calm.bind (Calm.lift (plain_allInputLines _ _ _ _)) fun _ => Calm.pure

end Select
end

/-! ### Parts of a table -/

namespace DataTable

theorem plain_layout (props : Members) : Plain (Layout.ofProps props) :=
  Plain.bind (Helper.plain_items _) fun _ => Plain.ok

theorem plain_alignment (column : Value) : Plain (alignment column) :=
  Plain.bind (Helper.plain_member _ _ _) fun _ => Plain.ok

theorem plain_isSorted (l : Layout) (column : Value) : Plain (isSorted l column) :=
  Plain.bind (Helper.plain_member _ _ _) fun _ => Plain.bind (Helper.plain_member _ _ _) fun _ => Plain.ok

theorem plain_headLines (l : Layout) (column : Value) : Plain (headLines l column) := by
  refine Plain.bind (Helper.plain_member _ _ _) fun _ => Plain.bind (plain_alignment _) fun _ => ?_
  refine Plain.bind (plain_isSorted _ _) fun _ => Plain.bind (Helper.plain_classes _) fun _ => ?_
  exact Plain.bind (Helper.plain_member _ _ _) fun _ => Plain.bind (Helper.plain_member _ _ _) fun _ => Plain.ok

theorem plain_headSection (l : Layout) : Plain (headSection l) := by
  unfold headSection
  split
  · exact Plain.ok
  · exact Plain.bind (Plain.mapM (plain_headLines l) _) fun _ => Plain.ok

end DataTable
end DesignKit
