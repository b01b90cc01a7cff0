import DesignKit.Proofs.Library

/-! # Wrappers

A container and a section write their children between an opening and a closing part, neither of which
depends on them. -/

namespace DesignKit
open Markup

namespace Markup

@[simp] theorem chars_append (m n : Markup) : chars (m ++ n) = chars m ++ chars n := by
  induction m with
  | nil => rfl
  | cons part rest ih => simp [chars, ih]

theorem chars_newline : newline.chars = ['\n'] := rfl

theorem chars_pad (n : Nat) : (pad n).chars = List.replicate n ' ' := by
  rw [pad, Node.chars, String.toList_ofList]
  induction n with
  | zero => rfl
  | succ n ih => exact congrArg (' ' :: ·) ih

theorem print_cons_embedded (m rest : Markup) : print (.embedded m :: rest) = m.print ++ print rest := by
  simp only [print, chars, Node.chars, String.ofList_append]

theorem print_cons_newline (rest : Markup) : print (newline :: rest) = "\n" ++ print rest := by
  rw [print, chars, String.ofList_append]
  rfl

end Markup

/-- A component that shows its children one below the other. -/
inductive Wrapper where
  | container
  | section
deriving DecidableEq, Repr

namespace Wrapper

/-- The component of the library. -/
def bundled : Wrapper → Bundled
  | container => .container
  | .section => .section

theorem ofName?_bundled (w : Wrapper) : Bundled.ofName? w.bundled.name = some w.bundled := by
  cases w <;> rfl

/-- In the library the children of a wrapper are placed under its own slots. -/
theorem parentSchema_bundled (w : Wrapper) (policy : Policy) (f : Value → Value → Render Markup) :
    (((Renderer.bundle policy).composition f).parentSchema (.named w.bundled.name)).result = .ok w.bundled.schema := by
  cases w <;> rfl

/-- What stands in the opening tag. -/
def items : Wrapper → Members → List Item
  | container, bag => .classed "anti-container" :: Helper.attributeItems (Container.layoutEntries bag) ++
    Helper.editable bag ++ Container.customColumns bag
  | .section, bag => .classed "anti-section" :: Helper.editable bag ++
    Helper.attributeItems (Section.layoutEntries bag)

/-- The markup around that of the children. -/
def markup (w : Wrapper) (bag : Members) (content : Markup) : Markup :=
  match w with
  | container => [block 0 "div" (w.items bag) (content ++ [newline])]
  | .section => [block 0 "section" (w.items bag)
    (blockLine 4 "div" [.classed "anti-section__inner"] (content ++ [newline]))]

/-- The text above the children. -/
def opening (w : Wrapper) (bag : Members) : String :=
  let items := String.ofList ((w.items bag).flatMap Item.chars)
  match w with
  | container => "<div" ++ items ++ ">\n"
  | .section => "<section" ++ items ++ ">\n    <div class=\"anti-section__inner\">\n"

/-- The text below the children. -/
def closing : Wrapper → String
  | container => "\n</div>"
  | .section => "\n    </div>\n</section>"

theorem template_eq (w : Wrapper) (c : Composition) (bag : Members) :
    w.bundled.template c bag = do
      let content ← c.children (bag.get "children") (.named w.bundled.name)
      return w.markup bag content := by
  cases w <;> rfl

theorem print_markup (w : Wrapper) (bag : Members) (content : Markup) :
    (w.markup bag content).print = w.opening bag ++ content.print ++ w.closing := by
  rw [← String.toList_inj]
  cases w with
  | container => simp [markup, opening, closing, print, chars, Node.chars, block, chars_newline, chars_pad]
  | «section» =>
    have hinner : (Item.classed "anti-section__inner").chars = " class=\"anti-section__inner\"".toList := by decide
    simp [markup, opening, closing, print, chars, Node.chars, block, blockLine, line, chars_newline, chars_pad, hinner,
      List.replicate]

/-- The opening part reads every prop but the children. -/
theorem opening_congr (w : Wrapper) {p q : Members} (h : ∀ key, key ≠ "children" → p.get? key = q.get? key) :
    w.opening p = w.opening q := by
  have hget : ∀ key, key ≠ "children" → p.get key = q.get key := fun key hkey => by
    rw [Members.get, Members.get, h key hkey]
  have hitems : w.items p = w.items q := by
    cases w with
    | container => simp [items, Container.layoutEntries, Container.customColumns, Helper.editable, hget]
    | «section» => simp [items, Section.layoutEntries, Helper.editable, hget]
  unfold opening
  rw [hitems]

end Wrapper
end DesignKit
