import DesignKit.Markup.Helper
import DesignKit.Proofs.Escape
import DesignKit.Proofs.Html.Fits

/-! # Attribute lists

An attribute list is made of names with values: each value stands in quotes behind its name, and one blank stands
between an attribute and the next. No escaped value holds a quote, so a list can be taken apart again, whatever the
values are, and it gives back the entries that it was made from but for those that leave their attribute out. -/

namespace DesignKit
namespace AttributeList
open Text

/-- A character may stand in the name of an attribute: it is neither a blank nor an equals sign nor a quote. -/
def isNameChar (c : Char) : Bool :=
  c != ' ' && c != '=' && c != '"' && c != '\x27'

/-- A text may be the name of an attribute. -/
def IsName (name : String) : Prop :=
  ∀ c ∈ name.toList, isNameChar c = true

instance (name : String) : Decidable (IsName name) :=
  decidable_of_iff (name.toList.all isNameChar = true) List.all_eq_true

/-- An attribute as it is written: a name, and a value in quotes. -/
def written (name value : List Char) : List Char :=
  name ++ '=' :: '"' :: value ++ ['"']

/-- What a written attribute says: its name, and its value with the references undone. -/
def meant (name value : List Char) : String × String :=
  (String.ofList name, String.ofList (unescapeChars value))

/-- A text is made of written attributes, one blank between each and the next. -/
inductive Spells : List Char → List (String × String) → Prop
  | last {name value : List Char} (hname : ∀ c ∈ name, isNameChar c = true) (hvalue : '"' ∉ value) :
      Spells (written name value) [meant name value]
  | more {name value rest : List Char} {pairs : List (String × String)} (hname : ∀ c ∈ name, isNameChar c = true)
      (hvalue : '"' ∉ value) (hrest : Spells rest pairs) :
      Spells (written name value ++ ' ' :: rest) (meant name value :: pairs)

/-- A list reads as names and values: it is empty and there are none, or it is made of attributes that say them. -/
def Reads (list : String) (pairs : List (String × String)) : Prop :=
  list = "" ∧ pairs = [] ∨ Spells list.toList pairs

/-! ### Reading -/

/-- What stands before and behind the first of a character. -/
def cut? (stop : Char) : List Char → Option (List Char × List Char)
  | [] => none
  | c :: rest => if c = stop then some ([], rest) else (cut? stop rest).map fun found => (c :: found.1, found.2)

/-- What the attribute at the front of a text says, and what follows it. -/
def front? (text : List Char) : Option ((String × String) × List Char) :=
  match cut? '=' text with
  | some (name, '"' :: rest) =>
    if name.all isNameChar then (cut? '"' rest).map fun found => (meant name found.1, found.2) else none
  | _ => none

theorem cut?_eq_some {stop : Char} {text before after : List Char} :
    cut? stop text = some (before, after) ↔ stop ∉ before ∧ text = before ++ stop :: after := by
  induction text generalizing before with
  | nil => simp [cut?]
  | cons c rest ih =>
    unfold cut?
    split
    · rename_i heq
      subst heq
      constructor
      · intro h
        cases h
        exact ⟨List.not_mem_nil, rfl⟩
      · rintro ⟨hbefore, htext⟩
        cases before with
        | nil =>
          cases htext
          rfl
        | cons d more =>
          obtain ⟨rfl, -⟩ := List.cons.inj htext
          exact absurd List.mem_cons_self hbefore
    · rename_i hne
      constructor
      · intro h
        obtain ⟨⟨more, tail⟩, hmore, hfound⟩ := Option.map_eq_some_iff.mp h
        cases hfound
        obtain ⟨hstop, rfl⟩ := ih.mp hmore
        exact ⟨List.not_mem_cons_of_ne_of_not_mem (Ne.symm hne) hstop, rfl⟩
      · rintro ⟨hbefore, htext⟩
        cases before with
        | nil => exact absurd (List.cons.inj htext).1 hne
        | cons d more =>
          obtain ⟨rfl, hrest⟩ := List.cons.inj htext
          have hmore := ih.mpr ⟨fun hmem => hbefore (List.mem_cons_of_mem _ hmem), hrest⟩
          rw [hmore, Option.map_some]

theorem front?_eq_some {text after : List Char} {found : String × String} :
    front? text = some (found, after) ↔
      ∃ name value, (∀ c ∈ name, isNameChar c = true) ∧ '"' ∉ value ∧ found = meant name value ∧
        text = written name value ++ after := by
  constructor
  · intro h
    unfold front? at h
    split at h
    · rename_i name rest hname
      obtain ⟨-, rfl⟩ := cut?_eq_some.mp hname
      split at h
      · rename_i hchars
        obtain ⟨⟨value, tail⟩, hvalue, hfound⟩ := Option.map_eq_some_iff.mp h
        cases hfound
        obtain ⟨hquote, rfl⟩ := cut?_eq_some.mp hvalue
        exact ⟨name, value, List.all_eq_true.mp hchars, hquote, rfl, by simp [written]⟩
      · cases h
    · cases h
  · rintro ⟨name, value, hname, hvalue, rfl, rfl⟩
    have hequals : '=' ∉ name := fun hmem => absurd (hname '=' hmem) (by decide)
    have hfirst : cut? '=' (written name value ++ after) = some (name, '"' :: (value ++ '"' :: after)) :=
      cut?_eq_some.mpr ⟨hequals, by simp [written]⟩
    have hsecond : cut? '"' (value ++ '"' :: after) = some (value, after) := cut?_eq_some.mpr ⟨hvalue, rfl⟩
    simp only [front?, hfirst, hsecond, Option.map_some]
    exact if_pos (List.all_eq_true.mpr hname)

theorem front?_length {text after : List Char} {found : String × String} (h : front? text = some (found, after)) :
    after.length < text.length := by
  obtain ⟨name, value, -, -, -, rfl⟩ := front?_eq_some.mp h
  simp only [written, List.length_append, List.length_cons]
  omega

/-- What the attributes of a text say, of which there is one at least. -/
def attributes? (text : List Char) : Option (List (String × String)) :=
  match _h : front? text with
  | some (found, []) => some [found]
  | some (found, ' ' :: rest) => (attributes? rest).map (found :: ·)
  | _ => none
termination_by text.length
decreasing_by
  have := front?_length _h
  simp only [List.length_cons] at this
  omega

/-- What the attributes of a list say. The empty list has none. -/
def read (list : String) : Option (List (String × String)) :=
  if list = "" then some [] else attributes? list.toList

section
variable {text rest : List Char} {found : String × String}

theorem attributes?_last (h : front? text = some (found, [])) : attributes? text = some [found] := by
  rw [attributes?]
  split
  · rename_i hfront
    cases h.symm.trans hfront
    rfl
  · rename_i hfront
    cases h.symm.trans hfront
  · rename_i hlast _
    exact absurd h (hlast found)

theorem attributes?_more (h : front? text = some (found, ' ' :: rest)) :
    attributes? text = (attributes? rest).map (found :: ·) := by
  rw [attributes?]
  split
  · rename_i hfront
    cases h.symm.trans hfront
  · rename_i hfront
    cases h.symm.trans hfront
    rfl
  · rename_i _ hmore
    exact absurd h (hmore found rest)

end

theorem attributes?_eq_some {text : List Char} {pairs : List (String × String)} :
    attributes? text = some pairs ↔ Spells text pairs := by
  constructor
  · intro h
    fun_induction attributes? text generalizing pairs with
    | case1 text found hfront =>
      cases h
      obtain ⟨name, value, hname, hvalue, rfl, rfl⟩ := front?_eq_some.mp hfront
      rw [List.append_nil]
      exact .last hname hvalue
    | case2 text found rest hfront ih =>
      obtain ⟨more, hmore, rfl⟩ := Option.map_eq_some_iff.mp h
      obtain ⟨name, value, hname, hvalue, rfl, rfl⟩ := front?_eq_some.mp hfront
      exact .more hname hvalue (ih hmore)
    | case3 => cases h
  · intro h
    induction h with
    | @last name value hname hvalue =>
      exact attributes?_last (front?_eq_some.mpr ⟨name, value, hname, hvalue, rfl, (List.append_nil _).symm⟩)
    | @more name value rest pairs hname hvalue hrest ih =>
      rw [attributes?_more (front?_eq_some.mpr ⟨name, value, hname, hvalue, rfl, rfl⟩), ih, Option.map_some]

theorem Spells.ne_nil {text : List Char} {pairs : List (String × String)} (h : Spells text pairs) : text ≠ [] := by
  cases h <;> simp [written]

/-- A list is read just where it is made of attributes, and as what they say. -/
theorem read_eq_some {list : String} {pairs : List (String × String)} : read list = some pairs ↔ Reads list pairs := by
  unfold read Reads
  split
  · rename_i hempty
    subst hempty
    have hnot : ¬ Spells "".toList pairs := fun h => h.ne_nil rfl
    rw [or_iff_left hnot, and_iff_right rfl, Option.some_inj, eq_comm]
  · rename_i hne
    rw [attributes?_eq_some]
    simp [hne]

/-! ### Entries -/

/-- A value leaves its attribute out: null, false and the empty text do, and no other value that is false. -/
def isOmitted : Value → Bool
  | .null => true
  | .bool b => !b
  | .text s => s == ""
  | _ => false

/-- The text of an attribute's value: that of the value, but for true, which is written as in documents. -/
def valueText : Value → String
  | .bool true => "true"
  | v => v.print

/-- The names of entries with the texts of their values, in order, without those that are left out. -/
def kept (entries : Members) : List (String × String) :=
  (entries.filter fun e => !isOmitted e.2).map fun e => (e.1, valueText e.2)

theorem attributeText?_eq (v : Value) :
    Helper.attributeText? v = if isOmitted v then none else some (valueText v) := by
  cases v with
  | bool b => cases b <;> rfl
  | text s => rfl
  | _ => rfl

theorem attributes_eq (entries : Members) :
    Helper.attributes entries = (kept entries).map fun pair => .attr pair.1 pair.2 := by
  induction entries with
  | nil => rfl
  | cons e rest ih =>
    obtain ⟨name, v⟩ := e
    have htext := attributeText?_eq v
    unfold Helper.attributes kept at ih ⊢
    cases hv : isOmitted v <;> simp [htext, hv, ih]

theorem quote_not_mem_escapeChars (cs : List Char) : '"' ∉ escapeChars cs := fun hmem =>
  absurd (Html.escapeChars_plain cs '"' hmem) (by decide)

/-- Escaped values are meant as the values. -/
theorem meant_escapeChars (pair : String × String) : meant pair.1.toList (escapeChars pair.2.toList) = pair := by
  rw [meant, unescapeChars_escapeChars, String.ofList_toList, String.ofList_toList]

/-- Attributes with names are spelled one after the other behind a blank each. -/
theorem exists_spells {pairs : List (String × String)} (hne : pairs ≠ []) (h : ∀ pair ∈ pairs, IsName pair.1) :
    ∃ text, (pairs.map fun pair => Item.attr pair.1 pair.2).flatMap Item.chars = ' ' :: text ∧ Spells text pairs := by
  induction pairs with
  | nil => exact absurd rfl hne
  | cons pair rest ih =>
    have hname := h pair List.mem_cons_self
    have hvalue := quote_not_mem_escapeChars pair.2.toList
    have hchars : (Item.attr pair.1 pair.2).chars = ' ' :: written pair.1.toList (escapeChars pair.2.toList) := by
      simp [Item.chars, written]
    rw [List.map_cons, List.flatMap_cons, hchars]
    cases rest with
    | nil =>
      refine ⟨_, List.append_nil _, ?_⟩
      have hlast := Spells.last hname hvalue
      rwa [meant_escapeChars] at hlast
    | cons second others =>
      obtain ⟨text, htext, hspells⟩ := ih (List.cons_ne_nil _ _) fun q hq => h q (List.mem_cons_of_mem _ hq)
      refine ⟨_, by rw [htext, List.cons_append], ?_⟩
      have hmore := Spells.more hname hvalue hspells
      rwa [meant_escapeChars] at hmore

/-- What stands in a tag for entries is a blank and the list of their attributes. -/
theorem chars_attributeItems (entries : Members) :
    (Helper.attributeItems entries).flatMap Item.chars = ' ' :: (Helper.attributeList entries).toList := by
  rw [Helper.attributeList, String.toList_ofList, Helper.attributeItems, attributes_eq]
  cases kept entries with
  | nil => rfl
  | cons pair rest => rfl

theorem isName_of_mem_kept {entries : Members} (h : ∀ e ∈ entries, IsName e.1) : ∀ pair ∈ kept entries, IsName pair.1 := by
  intro pair hpair
  obtain ⟨e, he, rfl⟩ := List.mem_map.mp hpair
  exact h e (List.mem_filter.mp he).1

/-- A list of attributes is read back as the entries that it was made from, whatever their values are, and in no
other way. Null, false and the empty text are left out; zeros, empty lists and empty objects are not. In the tags of
the templates the list stands behind a blank. -/
theorem read_attributeList {entries : Members} (h : ∀ e ∈ entries, IsName e.1) :
    read (Helper.attributeList entries) = some (kept entries) ∧
    (∀ found, Reads (Helper.attributeList entries) found → found = kept entries) ∧
    (∀ v ∈ [Value.int 0, .float 0.0, .list [], .object []], ∀ name, (name, v) ∈ entries →
      (name, v.print) ∈ kept entries) ∧
    (Helper.attributeItems entries).flatMap Item.chars = ' ' :: (Helper.attributeList entries).toList := by
  have hread : read (Helper.attributeList entries) = some (kept entries) := by
    rw [read_eq_some, Reads, Helper.attributeList, attributes_eq, String.toList_ofList]
    by_cases hne : kept entries = []
    · rw [hne]
      exact .inl ⟨rfl, rfl⟩
    · obtain ⟨text, htext, hspells⟩ := exists_spells hne (isName_of_mem_kept h)
      rw [htext]
      exact .inr hspells
  refine ⟨hread, fun found hfound => ?_, fun v hv name hmem => ?_, chars_attributeItems entries⟩
  · rw [← read_eq_some, hread, Option.some_inj] at hfound
    exact hfound.symm
  · simp only [List.mem_cons, List.not_mem_nil, or_false] at hv
    have hkept : isOmitted v = false ∧ valueText v = v.print := by
      rcases hv with rfl | rfl | rfl | rfl <;> exact ⟨rfl, rfl⟩
    exact List.mem_map.mpr ⟨(name, v), List.mem_filter.mpr ⟨hmem, by rw [hkept.1]; rfl⟩, by rw [hkept.2]⟩

/-- Entries with a value that looks like the end of its attribute and like a reference, and with all kinds of
values that are false. -/
def mixed : Members :=
  [("data-a", .text "\" b=\x27<&lt;"), ("a", .null), ("b", .bool false), ("c", .text ""), ("d", .bool true),
    ("e", .int 0), ("f", .float 0.0), ("g", .list []), ("h", .object [])]

theorem read_attributeList_mixed :
    (∀ e ∈ mixed, IsName e.1) ∧
      read (Helper.attributeList mixed) = some [("data-a", "\" b=\x27<&lt;"), ("d", "true"), ("e", "0"), ("f", "0.0"),
        ("g", "[]"), ("h", "\x7b\x7d")] := by
  have hnames : ∀ e ∈ mixed, IsName e.1 := by decide
  refine ⟨hnames, ?_⟩
  rw [(read_attributeList hnames).1]
  decide +kernel

end AttributeList
end DesignKit
