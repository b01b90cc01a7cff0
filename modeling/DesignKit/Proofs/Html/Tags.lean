import DesignKit.Proofs.Escape
import DesignKit.Proofs.Html.Fits

/-! # The tags of a page

A page is gone through from left to right, and each opening tag is noted down with its attributes, the references
in their values undone. For what is printed from markup that fits a vocabulary, these are the tags of its elements
and the attributes in them: no text that is given shows up as a tag, as an attribute or in the place of another
value. -/

namespace DesignKit
open Text

namespace Html

/-- An opening tag: its name, and the names and values of its attributes. -/
structure Tag where
  name : String
  attributes : List (String × String)
deriving DecidableEq, Repr

/-- A tag with one more attribute. -/
def Tag.add (tag : Tag) (name value : String) : Tag :=
  { tag with attributes := tag.attributes ++ [(name, value)] }

/-- Where a page is being gone through. -/
inductive Spot where
  /-- Between tags. -/
  | text
  /-- In the name of an opening tag. -/
  | opening (name : List Char)
  /-- In a closing tag. -/
  | closing
  /-- Behind the name of a tag, in a word that may become the name of an attribute. -/
  | inside (tag : Tag) (word : List Char)
  /-- Behind the equals sign of an attribute. -/
  | equals (tag : Tag) (name : List Char)
  /-- In the value of an attribute. -/
  | value (tag : Tag) (name value : List Char)

/-- A page that has been gone through to some spot, with the tags that were found. -/
structure Scan where
  spot : Spot
  found : List Tag

namespace Scan

/-- What follows a whole name, word or value in a tag. -/
def behind (tag : Tag) (found : List Tag) (c : Char) : Scan :=
  if c = '>' then ⟨.text, found ++ [tag]⟩ else ⟨.inside tag [], found⟩

/-- One character further. -/
def step (s : Scan) (c : Char) : Scan :=
  match s.spot with
  | .text => if c = '<' then ⟨.opening [], s.found⟩ else s
  | .opening name =>
    if name = [] ∧ c = '/' then ⟨.closing, s.found⟩
    else if Reader.endsName c then behind ⟨String.ofList name, []⟩ s.found c
    else ⟨.opening (name ++ [c]), s.found⟩
  | .closing => if c = '>' then ⟨.text, s.found⟩ else s
  | .inside tag word =>
    if Reader.endsName c then behind tag s.found c
    else if c = '=' then ⟨.equals tag word, s.found⟩
    else ⟨.inside tag (word ++ [c]), s.found⟩
  | .equals tag name => if c = '"' then ⟨.value tag name [], s.found⟩ else ⟨.inside tag [], s.found⟩
  | .value tag name value =>
    if c = '"' then ⟨.inside (tag.add (String.ofList name) (String.ofList (unescapeChars value))) [], s.found⟩
    else ⟨.value tag name (value ++ [c]), s.found⟩

/-- A row of characters further. -/
def run (s : Scan) (cs : List Char) : Scan :=
  cs.foldl step s

end Scan

/-- The opening tags of a page, in order. -/
def tags (page : String) : List Tag :=
  (Scan.run ⟨.text, []⟩ page.toList).found

end Html

open Html

/-- The attributes among the items of a tag, those with a value. -/
def Item.attributes : List Item → List (String × String)
  | [] => []
  | .attr name value :: rest => (name, value) :: attributes rest
  | _ :: rest => attributes rest

mutual

/-- The tags of a part, each element before those inside it. -/
def Node.tags : Node → List Tag
  | .text _ => []
  | .reference _ => []
  | .verbatim _ => []
  | .void tag items _ => [⟨tag, Item.attributes items⟩]
  | .element tag items content => ⟨tag, Item.attributes items⟩ :: Markup.tags content
  | .embedded content => Markup.tags content

/-- The tags of a forest. -/
def Markup.tags : List Node → List Tag
  | [] => []
  | n :: rest => n.tags ++ Markup.tags rest

end

namespace Item

@[simp] theorem attributes_nil : attributes [] = [] := rfl

@[simp] theorem attributes_attr (name value : String) (rest : List Item) :
    attributes (.attr name value :: rest) = (name, value) :: attributes rest := rfl

@[simp] theorem attributes_classed (names : String) (rest : List Item) :
    attributes (classed names :: rest) = ("class", names) :: attributes rest := rfl

@[simp] theorem attributes_valued (name : String) (v : Value) (rest : List Item) :
    attributes (valued name v :: rest) = (name, v.print) :: attributes rest := rfl

@[simp] theorem attributes_flag (name : String) (rest : List Item) : attributes (.flag name :: rest) = attributes rest :=
  rfl

@[simp] theorem attributes_append (items more : List Item) :
    attributes (items ++ more) = attributes items ++ attributes more := by
  induction items with
  | nil => rfl
  | cons item rest ih => cases item <;> simp [attributes, ih]

theorem attributes_given (condition : Bool) (item : Item) :
    attributes (given condition item) = if condition then attributes [item] else [] := by
  cases condition <;> rfl

end Item

namespace Markup

@[simp] theorem tags_nil : tags [] = [] := rfl

@[simp] theorem tags_cons (n : Node) (m : Markup) : tags (n :: m) = n.tags ++ tags m := rfl

@[simp] theorem tags_append (m n : Markup) : tags (m ++ n) = tags m ++ tags n := by
  induction m with
  | nil => rfl
  | cons part rest ih => rw [List.cons_append, tags_cons, tags_cons, ih, List.append_assoc]

theorem tags_given (condition : Bool) (m : Markup) : tags (given condition m) = if condition then tags m else [] := by
  cases condition <;> rfl

@[simp] theorem tags_newline : newline.tags = [] := rfl

@[simp] theorem tags_pad (n : Nat) : (pad n).tags = [] := rfl

@[simp] theorem tags_ofValue (v : Value) : (Node.ofValue v).tags = [] := rfl

@[simp] theorem tags_line (indent : Nat) (n : Node) : tags (line indent n) = n.tags := by
  simp [line]

@[simp] theorem tags_block (indent : Nat) (tag : String) (items : List Item) (content : Markup) :
    (block indent tag items content).tags = ⟨tag, Item.attributes items⟩ :: tags content := by
  simp [block, Node.tags]

@[simp] theorem tags_blockLine (indent : Nat) (tag : String) (items : List Item) (content : Markup) :
    tags (blockLine indent tag items content) = ⟨tag, Item.attributes items⟩ :: tags content := by
  rw [blockLine, tags_line, tags_block]

theorem tags_flatMap {α : Type} (f : α → Markup) (l : List α) : tags (l.flatMap f) = l.flatMap fun a => tags (f a) := by
  induction l with
  | nil => rfl
  | cons a rest ih => rw [List.flatMap_cons, List.flatMap_cons, tags_append, ih]

end Markup

namespace Html.Scan
variable {v : Vocabulary} {found : List Tag} {tag : Tag} {name : String} {s : Scan} {cs : List Char}

theorem run_cons (c : Char) : run s (c :: cs) = run (s.step c) cs := rfl

theorem run_append (ds : List Char) : run s (cs ++ ds) = run (run s cs) ds :=
  List.foldl_append

/-- A scan that no character of a row moves stays where it is. -/
theorem run_stay (h : ∀ c ∈ cs, s.step c = s) : run s cs = s := by
  induction cs with
  | nil => rfl
  | cons c rest ih =>
    rw [run_cons, h c List.mem_cons_self]
    exact ih fun d hd => h d (List.mem_cons_of_mem _ hd)

/-- A scan that collects the characters of a row has collected all of them behind it. -/
theorem run_collect (place : List Char → Scan) (word : List Char)
    (h : ∀ n, ∀ c ∈ cs, (place n).step c = place (n ++ [c])) : run (place word) cs = place (word ++ cs) := by
  induction cs generalizing word with
  | nil => rw [List.append_nil]; rfl
  | cons c rest ih =>
    rw [run_cons, h word c List.mem_cons_self, ih (word ++ [c]) fun n d hd => h n d (List.mem_cons_of_mem _ hd),
      List.append_assoc, List.singleton_append]

/-! ### Texts, names and values -/

theorem run_text (h : ∀ c ∈ cs, isPlain c = true) : run ⟨.text, found⟩ cs = ⟨.text, found⟩ :=
  run_stay fun c hc => by
    have hlt : c ≠ '<' := fun heq => by simpa [heq, isPlain] using h c hc
    simp [step, hlt]

theorem run_value (word : List Char) (h : ∀ c ∈ cs, isPlain c = true) :
    run ⟨.value tag word [], found⟩ cs = ⟨.value tag word cs, found⟩ :=
  run_collect (fun value => ⟨.value tag word value, found⟩) [] fun _ c hc => by
    have hquote : c ≠ '"' := fun heq => by simpa [heq, isPlain] using h c hc
    simp [step, hquote]

theorem run_opening (h : isName name = true) : run ⟨.opening [], found⟩ name.toList = ⟨.opening name.toList, found⟩ :=
  run_collect (fun n => ⟨.opening n, found⟩) [] fun n c hc => by
    have hends := ((isName_chars h).2 c hc).1
    have hslash : c ≠ '/' := fun heq => by simp [heq, Reader.endsName] at hends
    simp [step, hends, hslash]

theorem run_inside (h : isName name = true) : run ⟨.inside tag [], found⟩ name.toList = ⟨.inside tag name.toList, found⟩ :=
  run_collect (fun word => ⟨.inside tag word, found⟩) [] fun word c hc => by
    simp [step, (isName_chars h).2 c hc]

/-! ### The items of a tag -/

/-- A spot in a tag at which the next blank, slash or end belongs to the tag itself. -/
def Complete (tag : Tag) (spot : Spot) : Prop :=
  ∀ found c, Reader.endsName c = true → step ⟨spot, found⟩ c = behind tag found c

theorem complete_opening (h : isName name = true) : Complete ⟨name, []⟩ (.opening name.toList) := by
  intro found c hc
  simp [step, hc, (isName_chars h).1]

theorem complete_inside (tag : Tag) (word : List Char) : Complete tag (.inside tag word) := by
  intro found c hc
  simp [step, hc]

theorem Complete.blank {spot : Spot} (h : Complete tag spot) : step ⟨spot, found⟩ ' ' = ⟨.inside tag [], found⟩ :=
  h found ' ' rfl

theorem Complete.slash {spot : Spot} (h : Complete tag spot) : step ⟨spot, found⟩ '/' = ⟨.inside tag [], found⟩ :=
  h found '/' rfl

theorem Complete.finish {spot : Spot} (h : Complete tag spot) : step ⟨spot, found⟩ '>' = ⟨.text, found ++ [tag]⟩ :=
  h found '>' rfl

/-- A tag with the attribute of one more item, if the item is one. -/
def withItem (tag : Tag) : Item → Tag
  | .attr name value => tag.add name value
  | _ => tag

/-- Behind an item that fits, its attribute is noted down. -/
theorem run_item (hl : v.isLegible = true) (found : List Tag) {spot : Spot} (hs : Complete tag spot) {item : Item}
    (h : item.fits v name = true) :
    ∃ next, Complete (withItem tag item) next ∧ run ⟨spot, found⟩ item.chars = ⟨next, found⟩ := by
  cases item with
  | attr key value =>
    refine ⟨.inside (tag.add key value) [], complete_inside _ _, ?_⟩
    have hkey := isName_of_hasAttribute hl h
    have hchars : (Item.attr key value).chars =
        ' ' :: (key.toList ++ '=' :: '"' :: (escapeChars value.toList ++ ['"'])) := by
      simp [Item.chars]
    have hequals : step ⟨.inside tag key.toList, found⟩ '=' = ⟨.equals tag key.toList, found⟩ := by
      simp [step, Reader.endsName]
    have hquote : step ⟨.equals tag key.toList, found⟩ '"' = ⟨.value tag key.toList [], found⟩ := by
      simp [step]
    have hend : step ⟨.value tag key.toList (escapeChars value.toList), found⟩ '"' =
        ⟨.inside (tag.add key value) [], found⟩ := by
      simp [step, unescapeChars_escapeChars]
    rw [hchars, run_cons, hs.blank, run_append, run_inside hkey, run_cons, hequals, run_cons, hquote, run_append,
      run_value _ (escapeChars_plain _), run_cons, hend]
    rfl
  | flag key =>
    refine ⟨.inside tag key.toList, complete_inside _ _, ?_⟩
    rw [Item.chars, run_cons, hs.blank, run_inside (isName_of_hasAttribute hl h)]
  | gap =>
    refine ⟨.inside tag [], complete_inside _ _, ?_⟩
    rw [Item.chars, run_cons, hs.blank]
    rfl
  | verbatim s => cases h

theorem foldl_withItem (items : List Item) (tag : Tag) :
    items.foldl withItem tag = { tag with attributes := tag.attributes ++ Item.attributes items } := by
  induction items generalizing tag with
  | nil => simp [Item.attributes]
  | cons item rest ih =>
    rw [List.foldl_cons, ih]
    cases item <;> simp [withItem, Tag.add, Item.attributes]

theorem run_items (hl : v.isLegible = true) (found : List Tag) {items : List Item}
    (h : items.all (·.fits v name) = true) {spot : Spot} (hs : Complete tag spot) :
    ∃ next, Complete (items.foldl withItem tag) next ∧ run ⟨spot, found⟩ (items.flatMap Item.chars) = ⟨next, found⟩ := by
  induction items generalizing tag spot with
  | nil => exact ⟨spot, hs, rfl⟩
  | cons item rest ih =>
    rw [List.all_cons, Bool.and_eq_true_iff] at h
    obtain ⟨between, hb, hitem⟩ := run_item hl found hs h.1
    obtain ⟨next, hn, hrest⟩ := ih h.2 hb
    exact ⟨next, hn, by rw [List.flatMap_cons, run_append, hitem, hrest]⟩

/-! ### Parts and forests -/

/-- A tag that opens is gone through up to its end, with its attributes in hand. -/
theorem run_tag (hl : v.isLegible = true) (found : List Tag) (h : v.hasTag name = true) {items : List Item}
    (hi : items.all (·.fits v name) = true) :
    ∃ spot, Complete ⟨name, Item.attributes items⟩ spot ∧
      run ⟨.text, found⟩ ('<' :: name.toList ++ items.flatMap Item.chars) = ⟨spot, found⟩ := by
  have hname := isName_of_hasTag hl h
  obtain ⟨spot, hs, hrun⟩ := run_items hl found hi (complete_opening hname)
  rw [foldl_withItem] at hs
  refine ⟨spot, hs, ?_⟩
  have hopen : run ⟨.text, found⟩ ('<' :: name.toList) = ⟨.opening name.toList, found⟩ := run_opening hname
  rw [run_append, hopen, hrun]

theorem run_tagEnd {spot : Spot} (hs : Complete tag spot) (tagEnd : TagEnd) :
    run ⟨spot, found⟩ tagEnd.chars = ⟨.text, found ++ [tag]⟩ := by
  have hinside := complete_inside tag []
  cases tagEnd with
  | plain => exact hs.finish
  | slash =>
    rw [TagEnd.chars, run_cons, hs.slash]
    exact hinside.finish
  | spacedSlash =>
    rw [TagEnd.chars, run_cons, hs.blank, run_cons, hinside.slash]
    exact hinside.finish

theorem run_closingTag (h : isName name = true) :
    run ⟨.text, found⟩ ('<' :: '/' :: name.toList ++ ['>']) = ⟨.text, found⟩ := by
  have hname : run ⟨.closing, found⟩ name.toList = ⟨.closing, found⟩ := run_stay fun c hc => by
    have hend : c ≠ '>' := fun heq => by simpa [heq, Reader.endsName] using ((isName_chars h).2 c hc).1
    simp [step, hend]
  show run ⟨.closing, found⟩ (name.toList ++ ['>']) = _
  rw [run_append, hname]
  rfl

mutual

/-- Behind a part that fits, its tags are noted down. -/
theorem run_node (hl : v.isLegible = true) (found : List Tag) :
    ∀ n : Node, n.fits v = true → run ⟨.text, found⟩ n.chars = ⟨.text, found ++ n.tags⟩
  | .text s, _ => by
    rw [Node.chars, run_text (escapeChars_plain _), Node.tags, List.append_nil]
  | .reference code, _ => by
    rw [Node.chars, run_text (reference_plain code), Node.tags, List.append_nil]
  | .verbatim s, h => by cases h
  | .void tag items tagEnd, h => by
    simp only [Node.fits, Bool.and_eq_true] at h
    obtain ⟨spot, hs, hrun⟩ := run_tag hl found h.1.1 h.1.2
    rw [Node.chars, run_append, hrun, run_tagEnd hs, Node.tags]
  | .element tag items content, h => by
    simp only [Node.fits, Bool.and_eq_true] at h
    obtain ⟨⟨⟨htag, hitems⟩, -⟩, hcontent⟩ := h
    obtain ⟨spot, hs, hrun⟩ := run_tag hl found htag hitems
    have hbody := run_markup hl (found ++ [⟨tag, Item.attributes items⟩]) content hcontent
    have hchars : (Node.element tag items content).chars = ('<' :: tag.toList ++ items.flatMap Item.chars) ++
        '>' :: (Markup.chars content ++ ('<' :: '/' :: tag.toList ++ ['>'])) := by
      simp [Node.chars]
    rw [hchars, run_append, hrun, run_cons, hs.finish, run_append, hbody, run_closingTag (isName_of_hasTag hl htag),
      Node.tags, List.append_assoc, List.singleton_append]
  | .embedded content, h => by
    rw [Node.chars, Node.tags, run_markup hl found content h]

/-- Behind a forest that fits, its tags are noted down. -/
theorem run_markup (hl : v.isLegible = true) (found : List Tag) :
    ∀ m : List Node, Markup.fits v m = true → run ⟨.text, found⟩ (Markup.chars m) = ⟨.text, found ++ Markup.tags m⟩
  | [], _ => by rw [Markup.chars, Markup.tags, List.append_nil]; rfl
  | n :: rest, h => by
    rw [Markup.fits, Bool.and_eq_true_iff] at h
    rw [Markup.chars, run_append, run_node hl found n h.1, run_markup hl _ rest h.2, Markup.tags, List.append_assoc]

end
end Html.Scan

/-- The tags of what is printed from markup that fits a vocabulary are those of its elements. -/
theorem Html.tags_print {v : Vocabulary} (hl : v.isLegible = true) {m : Markup} (h : Markup.fits v m = true) :
    tags m.print = Markup.tags m := by
  rw [tags, Markup.print, String.toList_ofList, Scan.run_markup hl [] m h, List.nil_append]

end DesignKit
