import DesignKit.Text.Escape

/-! # Well-formed pages

A page is read from left to right with a stack of the tags that are open. Every `<` starts a tag of a
vocabulary, every attribute in it belongs to that tag, a value stands in double quotes, and neither a value
nor the text between tags holds `<`, `>` or `"`. A closing tag closes the innermost open one. Tags that have
no content are not opened: those that are void by name, and those that end in a slash. -/

namespace DesignKit.Html

/-- What a page may be written with. -/
structure Vocabulary where
  /-- The attributes of each tag. -/
  tags : List (String × List String)
  /-- The tags that have no content, also where no slash ends them. -/
  voids : List String

namespace Vocabulary

/-- A tag of this name may be written. -/
def hasTag (v : Vocabulary) (tag : String) : Bool :=
  (v.tags.lookup tag).isSome

/-- An attribute of this name may be written in a tag. -/
def hasAttribute (v : Vocabulary) (tag name : String) : Bool :=
  (v.tags.lookup tag).any (·.contains name)

/-- A tag of this name is void. -/
def isVoid (v : Vocabulary) (tag : String) : Bool :=
  v.voids.contains tag

end Vocabulary

/-- Where a reader of a page stands. -/
inductive Place where
  /-- Between tags. -/
  | text
  /-- In the name of an opening tag. -/
  | opening (name : List Char)
  /-- In the name of a closing tag. -/
  | closing (name : List Char)
  /-- Behind a blank in an opening tag, in the name of an attribute. -/
  | attribute (tag : String) (name : List Char)
  /-- Behind the equals sign of an attribute. -/
  | equals (tag : String)
  /-- In the value of an attribute. -/
  | value (tag : String)
  /-- Behind the value of an attribute. -/
  | valued (tag : String)
  /-- Behind the slash at the end of a tag. -/
  | slash (tag : String)
deriving DecidableEq, Repr

/-- A character that stands for itself between tags and in a value. -/
def isPlain (c : Char) : Bool :=
  c != '<' && c != '>' && c != '"'

/-- A reader of a page: where it stands, and the tags that are open, the innermost first. -/
structure Reader where
  place : Place
  stack : List String
deriving DecidableEq, Repr

namespace Reader

/-- What follows the name of a tag or an attribute in it: a blank, a slash, or the end of the tag. -/
def behind (v : Vocabulary) (tag : String) (stack : List String) (c : Char) : Option Reader :=
  if c = ' ' then some ⟨.attribute tag [], stack⟩
  else if c = '/' then some ⟨.slash tag, stack⟩
  else if c = '>' then some ⟨.text, if v.isVoid tag then stack else tag :: stack⟩
  else none

/-- A character that ends a name in a tag. -/
def endsName (c : Char) : Bool :=
  c == ' ' || c == '/' || c == '>'

/-- The reader behind one more character, if the page may have it there. -/
def step (v : Vocabulary) (r : Reader) (c : Char) : Option Reader :=
  match r.place with
  | .text =>
    if c = '<' then some ⟨.opening [], r.stack⟩
    else if isPlain c then some r
    else none
  | .opening name =>
    if name = [] ∧ c = '/' then some ⟨.closing [], r.stack⟩
    else if endsName c then
      if v.hasTag (String.ofList name) then behind v (String.ofList name) r.stack c else none
    else some ⟨.opening (name ++ [c]), r.stack⟩
  | .closing name =>
    if c = '>' then
      if r.stack.head? = some (String.ofList name) then some ⟨.text, r.stack.tail⟩ else none
    else some ⟨.closing (name ++ [c]), r.stack⟩
  | .attribute tag name =>
    if endsName c then
      if name = [] ∨ v.hasAttribute tag (String.ofList name) then behind v tag r.stack c else none
    else if c = '=' then
      if v.hasAttribute tag (String.ofList name) then some ⟨.equals tag, r.stack⟩ else none
    else some ⟨.attribute tag (name ++ [c]), r.stack⟩
  | .equals tag => if c = '"' then some ⟨.value tag, r.stack⟩ else none
  | .value tag =>
    if c = '"' then some ⟨.valued tag, r.stack⟩
    else if isPlain c then some r
    else none
  | .valued tag => behind v tag r.stack c
  | .slash _ => if c = '>' then some ⟨.text, r.stack⟩ else none

/-- The reader behind a row of characters. -/
def run (v : Vocabulary) (r : Reader) : List Char → Option Reader
  | [] => some r
  | c :: cs => (r.step v c).bind (run v · cs)

end Reader

/-- A page can be read to its end, and every tag that it opens is closed. -/
def WellFormed (v : Vocabulary) (page : String) : Prop :=
  Reader.run v ⟨.text, []⟩ page.toList = some ⟨.text, []⟩

instance (v : Vocabulary) (page : String) : Decidable (WellFormed v page) :=
  inferInstanceAs (Decidable (_ = _))

namespace Reader
variable {v : Vocabulary} {r : Reader}

@[simp] theorem run_nil : run v r [] = some r := rfl

theorem run_cons {c : Char} {cs : List Char} : run v r (c :: cs) = (r.step v c).bind (run v · cs) := rfl

theorem run_append {as bs : List Char} : run v r (as ++ bs) = (run v r as).bind (run v · bs) := by
  induction as generalizing r with
  | nil => rfl
  | cons c cs ih =>
    simp only [List.cons_append, run_cons]
    cases r.step v c with
    | none => rfl
    | some s => exact ih

theorem run_append_of {s : Reader} {as bs : List Char} (h : run v r as = some s) :
    run v r (as ++ bs) = run v s bs := by
  rw [run_append, h, Option.bind_some]

/-- A reader that no character of a row moves stays in its place. -/
theorem run_stay {cs : List Char} (h : ∀ c ∈ cs, r.step v c = some r) : run v r cs = some r := by
  induction cs with
  | nil => rfl
  | cons c cs ih =>
    rw [run_cons, h c List.mem_cons_self]
    exact ih fun d hd => h d (List.mem_cons_of_mem _ hd)

/-- A reader that collects the characters of a row has collected all of them behind it. -/
theorem run_collect (place : List Char → Reader) {cs : List Char} (name : List Char)
    (h : ∀ n, ∀ c ∈ cs, (place n).step v c = some (place (n ++ [c]))) :
    run v (place name) cs = some (place (name ++ cs)) := by
  induction cs generalizing name with
  | nil => simp
  | cons c cs ih =>
    rw [run_cons, h name c List.mem_cons_self, Option.bind_some,
      ih (name ++ [c]) fun n d hd => h n d (List.mem_cons_of_mem _ hd)]
    simp

end Reader
end DesignKit.Html
