import DesignKit.Markup
import DesignKit.Proofs.Html.Page
import DesignKit.Proofs.Members

/-! # Markup that fits a vocabulary

Markup fits a vocabulary when its tags and attributes are of it, no void tag has content, and nothing in it
is printed verbatim. The written form of such markup is read without a trace: the reader is behind it where it
was before it. -/

namespace DesignKit
open Text

namespace Html

/-- A character of which names are made. -/
def isNameChar (c : Char) : Bool :=
  !Reader.endsName c && c != '='

/-- A name that can be told from what follows it. -/
def isName (name : String) : Bool :=
  !name.toList.isEmpty && name.toList.all isNameChar

/-- Every name of a vocabulary can be told from what follows it. -/
def Vocabulary.isLegible (v : Vocabulary) : Bool :=
  v.tags.all fun (tag, attributes) => isName tag && attributes.all isName

end Html

open Html

/-- An item may stand in a tag. -/
def Item.fits (v : Vocabulary) (tag : String) : Item → Bool
  | attr name _ => v.hasAttribute tag name
  | flag name => v.hasAttribute tag name
  | gap => true
  | verbatim _ => false

mutual

/-- A part fits a vocabulary. -/
def Node.fits (v : Vocabulary) : Node → Bool
  | .text _ => true
  | .reference _ => true
  | .verbatim _ => false
  | .void tag items tagEnd => v.hasTag tag && items.all (·.fits v tag) && (v.isVoid tag || tagEnd != .plain)
  | .element tag items content =>
    v.hasTag tag && items.all (·.fits v tag) && !v.isVoid tag && Markup.fits v content
  | .embedded content => Markup.fits v content

/-- Every part of a forest fits a vocabulary. -/
def Markup.fits (v : Vocabulary) : List Node → Bool
  | [] => true
  | n :: rest => n.fits v && Markup.fits v rest

end

namespace Html
variable {v : Vocabulary}

/-! ### Names of a vocabulary -/

theorem isName_of_hasTag (hl : v.isLegible = true) {tag : String} (h : v.hasTag tag = true) : isName tag = true := by
  obtain ⟨attributes, hlook⟩ := Option.isSome_iff_exists.mp h
  have := List.all_eq_true.mp hl (tag, attributes) (mem_of_lookup hlook)
  exact (Bool.and_eq_true_iff.mp this).1

theorem isName_of_hasAttribute (hl : v.isLegible = true) {tag name : String} (h : v.hasAttribute tag name = true) :
    isName name = true := by
  obtain ⟨attributes, hlook, hmem⟩ := (Option.any_eq_true _ _).mp h
  have := List.all_eq_true.mp hl (tag, attributes) (mem_of_lookup hlook)
  exact List.all_eq_true.mp (Bool.and_eq_true_iff.mp this).2 name (List.contains_iff_mem.mp hmem)

theorem isName_chars {name : String} (h : isName name = true) :
    name.toList ≠ [] ∧ ∀ c ∈ name.toList, Reader.endsName c = false ∧ c ≠ '=' := by
  simpa [isName, isNameChar] using h

/-! ### Plain characters -/

theorem escapeChar_plain (c : Char) : ∀ d ∈ escapeChar c, isPlain d = true := by
  unfold escapeChar
  split
  case h_6 hamp hlt hgt hquote hapostrophe =>
    intro d hd
    rw [List.mem_singleton.mp hd]
    simpa [isPlain] using ⟨⟨hlt, hgt⟩, hquote⟩
  all_goals exact List.all_eq_true.mp (by decide)

theorem escapeChars_plain (cs : List Char) : ∀ d ∈ escapeChars cs, isPlain d = true := by
  intro d hd
  obtain ⟨c, -, hc⟩ := List.mem_flatMap.mp hd
  exact escapeChar_plain c d hc

theorem isPlain_of_isDigit {c : Char} (h : c.isDigit = true) : isPlain c = true := by
  have hne : ∀ d : Char, d.isDigit = false → c ≠ d := fun d hd heq => by simp [heq, hd] at h
  simp [isPlain, hne '<' rfl, hne '>' rfl, hne '"' rfl]

theorem reference_plain (code : Nat) : ∀ d ∈ '&' :: '#' :: Number.natText code ++ [';'], isPlain d = true := by
  intro d hd
  simp only [List.cons_append, List.mem_cons, List.mem_append, List.not_mem_nil, or_false] at hd
  rcases hd with rfl | rfl | hd | rfl
  · rfl
  · rfl
  · exact isPlain_of_isDigit (Nat.isDigit_of_mem_toDigits (by decide) (by decide) hd)
  · rfl

namespace Reader
variable {stack : List String} {tag name : String} {cs : List Char}

/-! ### Texts, values and names -/

theorem run_text (h : ∀ c ∈ cs, isPlain c = true) : run v ⟨.text, stack⟩ cs = some ⟨.text, stack⟩ :=
  run_stay fun c hc => by
    have hlt : c ≠ '<' := fun heq => by simpa [heq, isPlain] using h c hc
    simp [step, h c hc, hlt]

theorem run_value (h : ∀ c ∈ cs, isPlain c = true) : run v ⟨.value tag, stack⟩ cs = some ⟨.value tag, stack⟩ :=
  run_stay fun c hc => by
    have hquote : c ≠ '"' := fun heq => by simpa [heq, isPlain] using h c hc
    simp [step, h c hc, hquote]

theorem run_opening (h : isName tag = true) :
    run v ⟨.opening [], stack⟩ tag.toList = some ⟨.opening tag.toList, stack⟩ :=
  run_collect (fun n => ⟨.opening n, stack⟩) [] fun n c hc => by
    have hends := ((isName_chars h).2 c hc).1
    have hslash : c ≠ '/' := fun heq => by simp [heq, endsName] at hends
    simp [step, hends, hslash]

theorem run_attribute (h : isName name = true) :
    run v ⟨.attribute tag [], stack⟩ name.toList = some ⟨.attribute tag name.toList, stack⟩ :=
  run_collect (fun n => ⟨.attribute tag n, stack⟩) [] fun n c hc => by
    simp [step, (isName_chars h).2 c hc]

theorem run_closing (h : isName tag = true) :
    run v ⟨.closing [], stack⟩ tag.toList = some ⟨.closing tag.toList, stack⟩ :=
  run_collect (fun n => ⟨.closing n, stack⟩) [] fun n c hc => by
    have hends := ((isName_chars h).2 c hc).1
    have hend : c ≠ '>' := fun heq => by simp [heq, endsName] at hends
    simp [step, hend]

/-! ### The items of a tag -/

/-- A place in a tag behind its name or behind a whole item. -/
def Complete (v : Vocabulary) (tag : String) (place : Place) : Prop :=
  ∀ stack c, endsName c = true → step v ⟨place, stack⟩ c = behind v tag stack c

theorem complete_opening (hname : isName tag = true) (h : v.hasTag tag = true) :
    Complete v tag (.opening tag.toList) := by
  intro stack c hc
  simp [step, hc, h, (isName_chars hname).1]

theorem complete_valued : Complete v tag (.valued tag) :=
  fun _ _ _ => rfl

theorem complete_gap : Complete v tag (.attribute tag []) := by
  intro stack c hc
  simp [step, hc]

theorem complete_flag (h : v.hasAttribute tag name = true) : Complete v tag (.attribute tag name.toList) := by
  intro stack c hc
  simp [step, hc, h]

theorem Complete.blank {place : Place} (h : Complete v tag place) :
    step v ⟨place, stack⟩ ' ' = some ⟨.attribute tag [], stack⟩ :=
  h stack ' ' rfl

theorem Complete.slash {place : Place} (h : Complete v tag place) :
    step v ⟨place, stack⟩ '/' = some ⟨.slash tag, stack⟩ :=
  h stack '/' rfl

theorem Complete.finish {place : Place} (h : Complete v tag place) :
    step v ⟨place, stack⟩ '>' = some ⟨.text, if v.isVoid tag then stack else tag :: stack⟩ :=
  h stack '>' rfl

/-- Behind an item that fits, a reader is again behind a whole item. -/
theorem run_item (hl : v.isLegible = true) (stack : List String) {place : Place} (hp : Complete v tag place) {item : Item}
    (h : item.fits v tag = true) :
    ∃ next, Complete v tag next ∧ run v ⟨place, stack⟩ item.chars = some ⟨next, stack⟩ := by
  cases item with
  | attr name value =>
    refine ⟨.valued tag, complete_valued, ?_⟩
    have hname := isName_of_hasAttribute hl h
    have hattr : v.hasAttribute tag name = true := h
    have hequals : step v ⟨.attribute tag name.toList, stack⟩ '=' = some ⟨.equals tag, stack⟩ := by
      simp [step, endsName, hattr]
    simp only [Item.chars, List.cons_append, run_cons, hp.blank, Option.bind_some, run_append, run_attribute hname,
      hequals]
    simp [step, run_value (escapeChars_plain _)]
  | flag name =>
    refine ⟨.attribute tag name.toList, complete_flag h, ?_⟩
    simp only [Item.chars, run_cons, hp.blank, Option.bind_some, run_attribute (isName_of_hasAttribute hl h)]
  | gap => exact ⟨.attribute tag [], complete_gap, by simp [Item.chars, run_cons, hp.blank]⟩
  | verbatim s => cases h

theorem run_items (hl : v.isLegible = true) (stack : List String) {items : List Item}
    (h : items.all (·.fits v tag) = true) {place : Place}
    (hp : Complete v tag place) :
    ∃ next, Complete v tag next ∧ run v ⟨place, stack⟩ (items.flatMap Item.chars) = some ⟨next, stack⟩ := by
  induction items generalizing place with
  | nil => exact ⟨place, hp, rfl⟩
  | cons item rest ih =>
    rw [List.all_cons, Bool.and_eq_true_iff] at h
    obtain ⟨between, hb, hitem⟩ := run_item hl stack hp h.1
    obtain ⟨next, hn, hrest⟩ := ih h.2 hb
    exact ⟨next, hn, by rw [List.flatMap_cons, run_append_of hitem, hrest]⟩

/-! ### Parts and forests -/

/-- A tag that opens is read up to its end. -/
theorem run_tag (hl : v.isLegible = true) (stack : List String) (h : v.hasTag tag = true) {items : List Item}
    (hi : items.all (·.fits v tag) = true) :
    ∃ place, Complete v tag place ∧
      run v ⟨.text, stack⟩ ('<' :: tag.toList ++ items.flatMap Item.chars) = some ⟨place, stack⟩ := by
  have hname := isName_of_hasTag hl h
  obtain ⟨place, hp, hrun⟩ := run_items hl stack hi (complete_opening hname h)
  refine ⟨place, hp, ?_⟩
  have hopen : run v ⟨.text, stack⟩ ('<' :: tag.toList) = some ⟨.opening tag.toList, stack⟩ := by
    rw [run_cons]
    exact run_opening hname
  rw [run_append_of hopen, hrun]

theorem run_tagEnd {place : Place} (hp : Complete v tag place) {tagEnd : TagEnd}
    (h : (v.isVoid tag || tagEnd != .plain) = true) :
    run v ⟨place, stack⟩ tagEnd.chars = some ⟨.text, stack⟩ := by
  cases tagEnd with
  | plain =>
    have hvoid : v.isVoid tag = true := by simpa using h
    rw [TagEnd.chars, run_cons, hp.finish, if_pos hvoid]
    rfl
  | slash =>
    rw [TagEnd.chars, run_cons, hp.slash]
    rfl
  | spacedSlash =>
    rw [TagEnd.chars, run_cons, hp.blank]
    rfl

theorem run_closingTag (h : isName tag = true) :
    run v ⟨.text, tag :: stack⟩ ('<' :: '/' :: tag.toList ++ ['>']) = some ⟨.text, stack⟩ := by
  simp [run_cons, step, run_append, run_closing h]

mutual

/-- A part that fits is read without a trace. -/
theorem run_node (hl : v.isLegible = true) (stack : List String) :
    ∀ n : Node, n.fits v = true → run v ⟨.text, stack⟩ n.chars = some ⟨.text, stack⟩
  | .text s, _ => run_text (escapeChars_plain _)
  | .reference code, _ => run_text (reference_plain code)
  | .verbatim s, h => by cases h
  | .void tag items tagEnd, h => by
    simp only [Node.fits, Bool.and_eq_true] at h
    obtain ⟨place, hp, hrun⟩ := run_tag hl stack h.1.1 h.1.2
    rw [Node.chars, run_append_of hrun, run_tagEnd hp h.2]
  | .element tag items content, h => by
    simp only [Node.fits, Bool.and_eq_true, Bool.not_eq_true'] at h
    obtain ⟨⟨⟨htag, hitems⟩, hvoid⟩, hcontent⟩ := h
    obtain ⟨place, hp, hrun⟩ := run_tag hl stack htag hitems
    have hopen : run v ⟨.text, stack⟩ ('<' :: tag.toList ++ items.flatMap Item.chars ++ ['>']) =
        some ⟨.text, tag :: stack⟩ := by
      rw [run_append_of hrun, run_cons, hp.finish, hvoid]
      rfl
    have hclose := @run_closingTag v stack tag (isName_of_hasTag hl htag)
    have hbody := run_markup hl (tag :: stack) content hcontent
    have hchars : (Node.element tag items content).chars = ('<' :: tag.toList ++ items.flatMap Item.chars ++ ['>']) ++
        (Markup.chars content ++ ('<' :: '/' :: tag.toList ++ ['>'])) := by
      simp [Node.chars]
    rw [hchars, run_append_of hopen, run_append_of hbody, hclose]
  | .embedded content, h => run_markup hl stack content h

/-- A forest that fits is read without a trace. -/
theorem run_markup (hl : v.isLegible = true) (stack : List String) :
    ∀ m : List Node, Markup.fits v m = true → run v ⟨.text, stack⟩ (Markup.chars m) = some ⟨.text, stack⟩
  | [], _ => rfl
  | n :: rest, h => by
    rw [Markup.fits, Bool.and_eq_true_iff] at h
    rw [Markup.chars, run_append_of (run_node hl stack n h.1), run_markup hl stack rest h.2]

end
end Reader

theorem wellFormed_print_iff {m : Markup} :
    WellFormed v m.print ↔ Reader.run v ⟨.text, []⟩ (Markup.chars m) = some ⟨.text, []⟩ := by
  rw [WellFormed, Markup.print, String.toList_ofList]

/-- What is printed from markup that fits a vocabulary is a well-formed page. -/
theorem wellFormed_print (hl : v.isLegible = true) {m : Markup} (h : Markup.fits v m = true) :
    WellFormed v m.print :=
  wellFormed_print_iff.mpr (Reader.run_markup hl [] m h)

end Html
end DesignKit
