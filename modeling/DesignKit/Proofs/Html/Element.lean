import DesignKit.Markup

/-! # Elements of a forest

What a page shows of a forest by tags: the elements that stand in it themselves, not those inside of other
elements or of the markup of components within. -/

namespace DesignKit

/-- An element without its tag: what stands in its opening tag, and its content. -/
structure Element where
  items : List Item
  content : Markup

/-- The text of an attribute; the first one of a name counts. -/
def Element.attribute? (e : Element) (name : String) : Option String :=
  e.items.findSome? fun
    | .attr key value => if key == name then some value else none
    | _ => none

namespace Markup

/-- The elements of a tag, in order. -/
def elements (tag : String) (m : Markup) : List Element :=
  m.filterMap fun
    | .element name items content => if name == tag then some ⟨items, content⟩ else none
    | _ => none

/-- The content of the elements of a tag. -/
def within (tag : String) (m : Markup) : Markup :=
  (m.elements tag).flatMap (·.content)

variable (tag : String)

@[simp] theorem elements_nil : elements tag [] = [] := rfl

@[simp] theorem elements_append (m n : Markup) : elements tag (m ++ n) = elements tag m ++ elements tag n :=
  List.filterMap_append

theorem elements_given (condition : Bool) (m : Markup) :
    elements tag (given condition m) = if condition then elements tag m else [] := by
  cases condition <;> rfl

@[simp] theorem elements_newline_cons (m : Markup) : elements tag (newline :: m) = elements tag m := rfl

@[simp] theorem elements_pad_cons (n : Nat) (m : Markup) : elements tag (pad n :: m) = elements tag m := rfl

theorem elements_element_cons (name : String) (items : List Item) (content m : Markup) :
    elements tag (.element name items content :: m) =
      if name = tag then ⟨items, content⟩ :: elements tag m else elements tag m := by
  by_cases h : name = tag <;> simp [elements, h]

@[simp] theorem elements_element_self (items : List Item) (content m : Markup) :
    elements tag (.element tag items content :: m) = ⟨items, content⟩ :: elements tag m := by
  rw [elements_element_cons, if_pos rfl]

/-- The lines of an element are that element alone. -/
@[simp] theorem elements_line_self (indent : Nat) (items : List Item) (content : Markup) :
    elements tag (line indent (.element tag items content)) = [⟨items, content⟩] := by
  rw [line, elements_pad_cons, elements_element_self, elements_newline_cons, elements_nil]

@[simp] theorem elements_blockLine_self (indent : Nat) (items : List Item) (content : Markup) :
    elements tag (blockLine indent tag items content) = [⟨items, newline :: content ++ [pad indent]⟩] :=
  elements_line_self tag indent items _

theorem elements_blockLine_ne {name : String} (h : name ≠ tag) (indent : Nat) (items : List Item) (content : Markup) :
    elements tag (blockLine indent name items content) = [] := by
  rw [blockLine, line, elements_pad_cons, block, elements_element_cons, if_neg h, elements_newline_cons, elements_nil]

/-- Around the content of a block there are only blanks. -/
theorem elements_block_content (indent : Nat) (content : Markup) :
    elements tag (newline :: content ++ [pad indent]) = elements tag content := by
  simp

@[simp] theorem within_nil : within tag [] = [] := rfl

@[simp] theorem within_append (m n : Markup) : within tag (m ++ n) = within tag m ++ within tag n := by
  rw [within, elements_append, List.flatMap_append, within, within]

@[simp] theorem within_newline_cons (m : Markup) : within tag (newline :: m) = within tag m := rfl

@[simp] theorem within_pad_cons (n : Nat) (m : Markup) : within tag (pad n :: m) = within tag m := rfl

@[simp] theorem within_block_self (indent : Nat) (items : List Item) (content : Markup) :
    within tag [block indent tag items content] = newline :: content ++ [pad indent] := by
  rw [within, block, elements_element_self, elements_nil, List.flatMap_singleton]

@[simp] theorem within_blockLine_self (indent : Nat) (items : List Item) (content : Markup) :
    within tag (blockLine indent tag items content) = newline :: content ++ [pad indent] := by
  rw [within, elements_blockLine_self, List.flatMap_singleton]

theorem within_blockLine_ne {name : String} (h : name ≠ tag) (indent : Nat) (items : List Item) (content : Markup) :
    within tag (blockLine indent name items content) = [] := by
  rw [within, elements_blockLine_ne tag h, List.flatMap_nil]

end Markup
end DesignKit
