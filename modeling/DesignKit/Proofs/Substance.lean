import DesignKit.Proofs.Library

/-! # What prints nothing

A component of the library renders to nothing at all or to one element, as its bag says, so what it renders is
empty as soon as it prints nothing. -/

namespace DesignKit

/-- Markup that prints something unless it is empty. -/
def Markup.Substantial (m : Markup) : Prop :=
  m.print = "" → m = []

theorem Markup.substantial_nil : Substantial [] := fun _ => rfl

theorem Markup.substantial_element (tag : String) (items : List Item) (content : List Node) (rest : Markup) :
    Substantial (.element tag items content :: rest) := by
  intro h
  simp [print, chars, Node.chars] at h

/-- What is kept of a row of markup is what prints something. -/
theorem Markup.map_print_kept {m : Markup} (h : m.Substantial) {others : List Markup} {texts : List String}
    (hothers : others.map print = texts.filter (· ≠ "")) :
    (if m.isEmpty then others else m :: others).map print = (m.print :: texts).filter (· ≠ "") := by
  rw [List.filter_cons, ← hothers]
  by_cases hprint : m.print = ""
  · rw [h hprint]
    rfl
  · have hne : m.isEmpty = false := by
      cases m with
      | nil => exact absurd rfl hprint
      | cons => rfl
    simp [hne, hprint]

/-- Markup that is one element. -/
def Markup.IsElement (m : Markup) : Prop :=
  ∃ tag items content, m = [.element tag items content]

theorem Markup.IsElement.substantial {m : Markup} (h : m.IsElement) : m.Substantial := by
  obtain ⟨tag, items, content, rfl⟩ := h
  exact substantial_element tag items content []

/-- An element is written from the start of its opening tag to the end of its closing tag. -/
theorem Markup.IsElement.print_eq {m : Markup} (h : m.IsElement) : ∃ middle, m.print = "<" ++ middle ++ ">" := by
  obtain ⟨tag, items, content, rfl⟩ := h
  let middle := tag.toList ++ items.flatMap Item.chars ++ '>' :: chars content ++ '<' :: '/' :: tag.toList
  refine ⟨String.ofList middle, ?_⟩
  rw [← String.toList_inj]
  simp [print, chars, Node.chars, middle]

/-- A component that has nothing to show: a badge without a text, an intro without any of its three texts, and a code
block without code. -/
def Bundled.isBlank : Bundled → Members → Bool
  | badge, bag => !(bag.get "text").truthy
  | intro, bag => !((bag.get "eyebrow").truthy || (bag.get "title").truthy || (bag.get "subtitle").truthy)
  | codeBlock, bag => !(bag.get "code").truthy
  | _, _ => false

/-- What a component shows for a bag: nothing, or one element. -/
def Bundled.Shows (b : Bundled) (bag : Members) (m : Markup) : Prop :=
  if b.isBlank bag then m = [] else m.IsElement

open Markup Render

theorem Bundled.Shows.nil {b : Bundled} {bag : Members} (h : b.isBlank bag = true) : b.Shows bag [] := by
  rw [Shows, if_pos h]

theorem Bundled.Shows.element {b : Bundled} {bag : Members} (h : b.isBlank bag = false) (tag : String)
    (items : List Item) (content : List Node) : b.Shows bag [.element tag items content] := by
  rw [Shows, if_neg (Bool.eq_false_iff.mp h)]
  exact ⟨tag, items, content, rfl⟩

theorem Bundled.Shows.substantial {b : Bundled} {bag : Members} {m : Markup} (h : b.Shows bag m) : m.Substantial := by
  unfold Shows at h
  split at h
  · rw [h]
    exact substantial_nil
  · exact h.substantial

theorem Bundled.template_shows (b : Bundled) (c : Composition) (bag : Members) :
    (b.template c bag).Ensures (b.Shows bag) := by
  have helement : b.isBlank bag = false → ∀ tag items content,
      Ensures (Pure.pure [.element tag items content]) (b.Shows bag) :=
    fun hb tag items content => Ensures.pure (Shows.element hb tag items content)
  cases b with
  | badge =>
    simp only [template, Badge.template]
    split
    · rename_i htext
      exact Ensures.bind_result fun _ _ => helement (by simp [isBlank, htext]) _ _ _
    · rename_i htext
      exact Ensures.pure (Shows.nil (by simp [isBlank, htext]))
  | button =>
    simp only [template, Button.template]
    refine Ensures.bind_result fun _ _ => ?_
    split <;> exact helement rfl _ _ _
  | card => exact Ensures.bind_result fun _ _ => helement rfl _ _ _
  | codeBlock =>
    simp only [template, CodeBlock.template]
    split
    · rename_i hcode
      exact Ensures.bind_result fun _ _ => helement (by simp [isBlank, hcode]) _ _ _
    · rename_i hcode
      exact Ensures.pure (Shows.nil (by simp [isBlank, hcode]))
  | container => exact Ensures.bind_result fun _ _ => helement rfl _ _ _
  | faq => exact Ensures.bind_result fun _ _ => helement rfl _ _ _
  | hero =>
    refine Ensures.bind_result fun _ _ => Ensures.bind_result fun _ _ => Ensures.bind_result fun _ _ => ?_
    refine Ensures.bind_result fun _ _ => Ensures.bind_result fun _ _ => Ensures.bind_result fun _ _ => ?_
    exact helement rfl _ _ _
  | intro =>
    simp only [template, Intro.template]
    split
    · rename_i htexts
      exact helement (by rw [isBlank, htexts]; rfl) _ _ _
    · rename_i htexts
      exact Ensures.pure (Shows.nil (by rw [isBlank, Bool.eq_false_iff.mpr htexts]; rfl))
  | «section» => exact Ensures.bind_result fun _ _ => helement rfl _ _ _
  | select =>
    simp only [template, Select.template]
    refine Ensures.bind_result fun _ _ => ?_
    split
    · exact Ensures.bind_result fun _ _ => helement rfl _ _ _
    · split
      · exact Ensures.bind_result fun _ _ => helement rfl _ _ _
      · exact Ensures.bind_result fun _ _ => Ensures.bind_result fun _ _ => helement rfl _ _ _
  | stats => exact helement rfl _ _ _
  | table =>
    simp only [template, DataTable.template]
    refine Ensures.bind_result fun _ _ => Ensures.bind_result fun _ _ => ?_
    split
    · exact Ensures.bind_result fun _ _ => Ensures.bind_result fun _ _ => helement rfl _ _ _
    · exact Ensures.bind_result fun _ _ => helement rfl _ _ _
  | testimonial => exact Ensures.bind_result fun _ _ => Ensures.bind_result fun _ _ => helement rfl _ _ _

namespace Renderer
variable (policy : Policy)

theorem component_substantial (depth : Nat) (type props : Value) :
    ((bundle policy).component depth type props).Ensures Substantial := by
  cases depth with
  | zero => exact Ensures.fail
  | succ depth =>
    refine Ensures.bind_result fun ⟨name, f⟩ hf => Ensures.bind_result fun bag _ => ?_
    obtain ⟨b, -, -, rfl⟩ := function_bundle_eq_ok hf
    exact fun m hm => (b.template_shows _ bag m hm).substantial

end Renderer
end DesignKit
