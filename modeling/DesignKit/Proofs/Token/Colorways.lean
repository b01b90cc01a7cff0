import DesignKit.Cli
import DesignKit.Proofs.Token.Names

/-! # The colorways of a document

A document declares colorways within its color section or, when nothing is there, at its top: an object of
objects, one for each colorway. A colorway has the members in which something is written, and one without
such a member does not count. Since an object has each key once, so have the colorways their names, and they can
be given out under them. -/

namespace DesignKit

/-! ### The text of a number -/

namespace Number

theorem intText_ne_empty (n : Int) : intText n ≠ "" := by
  have hdigits : natText n.natAbs ≠ [] := Nat.toDigits_ne_nil
  rw [intText, ne_eq, String.ofList_eq_empty_iff]
  split
  · exact List.cons_ne_nil _ _
  · exact hdigits

theorem positional_ne_nil (digits : List Char) (whole : Int) : positional digits whole ≠ [] := by
  unfold positional
  split
  · exact List.cons_ne_nil _ _
  · dsimp only
    split <;> simp

theorem scientific_ne_nil (digits : List Char) (exponent : Int) : scientific digits exponent ≠ [] := by
  simp [scientific]

theorem FloatStyle.positive_ne_nil (style : FloatStyle) (b : Binary) : style.positive b ≠ [] := by
  unfold FloatStyle.positive
  dsimp only
  split
  · exact positional_ne_nil _ _
  · exact scientific_ne_nil _ _

theorem FloatStyle.text_plain_ne_empty (x : Float) : FloatStyle.plain.text x ≠ "" := by
  unfold FloatStyle.text
  split
  · rename_i b _
    have hunsigned : (if b.mantissa == 0 then ['0', '.', '0'] else FloatStyle.plain.positive b) ≠ [] := by
      split
      · exact List.cons_ne_nil _ _
      · exact FloatStyle.plain.positive_ne_nil b
    rw [ne_eq, String.ofList_eq_empty_iff]
    split
    · exact List.cons_ne_nil _ _
    · exact hunsigned
  · split
    · decide
    · split <;> decide

end Number

namespace Colorway
open TokenDocument

/-! ### Entries -/

/-- Something is written in a value: it is neither null nor the empty text, no list and no object. -/
def isWritten : Value → Bool
  | .null => false
  | .text s => s != ""
  | .list _ => false
  | .object _ => false
  | _ => true

/-- A value as a colorway has it: a text as it is, anything else as stylesheets write numbers. -/
def written : Value → String
  | .text s => s
  | v => numberText v

theorem entryText?_eq (v : Value) : entryText? v = if isWritten v then some (written v) else none := by
  cases v with
  | text s => by_cases h : s = "" <;> simp [entryText?, isWritten, written, h]
  | _ => rfl

theorem entriesOf_eq (m : Members) :
    entriesOf m = (m.filter (isWritten ·.2)).map fun e => (e.1, written e.2) := by
  induction m with
  | nil => rfl
  | cons entry rest ih =>
    obtain ⟨key, v⟩ := entry
    rw [entriesOf] at ih ⊢
    cases hv : isWritten v <;> simp [entryText?_eq v, hv, ih]

theorem written_ne_empty {v : Value} (h : isWritten v = true) : written v ≠ "" := by
  cases v with
  | bool b => cases b <;> decide
  | int n => exact Number.intText_ne_empty n
  | float x =>
    simp only [written, numberText]
    split
    · exact Number.intText_ne_empty _
    · exact Number.FloatStyle.text_plain_ne_empty x
  | text s => simpa [isWritten, written] using h
  | _ => cases h

/-! ### Colorways -/

/-- Something is written in a member of an entry. -/
def isKept (entry : Value) : Bool :=
  (entry.members?.getD []).any (isWritten ·.2)

/-- The colorway of an entry: what is written in its members, in order. -/
def ofEntry (entry : String × Value) : Colorway :=
  ⟨entry.1, ((entry.2.members?.getD []).filter (isWritten ·.2)).map fun e => (e.1, written e.2)⟩

theorem isEmpty_entriesOf (m : Members) : (entriesOf m).isEmpty = !isKept (.object m) := by
  rw [entriesOf_eq, List.isEmpty_map, Bool.eq_iff_iff]
  simp [isKept, Value.members?]

theorem ofMembers_cons (name : String) (m : Members) (rest : Members) :
    ofMembers ((name, .object m) :: rest) = do
      let others ← ofMembers rest
      return (([(name, .object m)].filter (isKept ·.2)).map ofEntry) ++ others := by
  rw [ofMembers]
  refine except_bind_congr fun others _ => congrArg Except.ok ?_
  rw [isEmpty_entriesOf]
  cases hkept : isKept (.object m) with
  | false => simp [hkept]
  | true => simp [hkept, ofEntry, entriesOf_eq, Value.members?]

/-- Entries that are all objects give a colorway for each that is kept. -/
theorem ofMembers_eq_ok {source : Members} {colorways : List Colorway} :
    ofMembers source = .ok colorways ↔
      (∀ e ∈ source, ∃ m, e.2 = .object m) ∧ colorways = (source.filter (isKept ·.2)).map ofEntry := by
  induction source generalizing colorways with
  | nil =>
    constructor
    · intro h
      cases h
      exact ⟨nofun, rfl⟩
    · rintro ⟨-, rfl⟩
      rfl
  | cons entry rest ih =>
    obtain ⟨name, v⟩ := entry
    cases v with
    | object m =>
      have happend : ((name, Value.object m) :: rest).filter (isKept ·.2) =
          [(name, Value.object m)].filter (isKept ·.2) ++ rest.filter (isKept ·.2) := List.filter_append [_] rest
      rw [ofMembers_cons, except_bind_eq_ok, happend, List.map_append, List.forall_mem_cons]
      constructor
      · rintro ⟨others, hothers, h⟩
        obtain ⟨hobjects, rfl⟩ := ih.mp hothers
        cases h
        exact ⟨⟨⟨m, rfl⟩, hobjects⟩, rfl⟩
      · rintro ⟨⟨-, hobjects⟩, rfl⟩
        exact ⟨_, ih.mpr ⟨hobjects, rfl⟩, rfl⟩
    | _ =>
      constructor
      · intro h
        cases h
      · rintro ⟨h, -⟩
        obtain ⟨m, hm⟩ := h _ List.mem_cons_self
        cases hm

theorem ofMembers_eq_error {source : Members} {f : Fault} (h : ofMembers source = .error f) :
    ∃ name, f = fault (.notColorway name) := by
  induction source with
  | nil => cases h
  | cons entry rest ih =>
    obtain ⟨name, v⟩ := entry
    cases v with
    | object m =>
      rw [ofMembers_cons] at h
      rcases except_bind_eq_error.mp h with h | ⟨others, -, h⟩
      · exact ih h
      · cases h
    | _ =>
      cases h
      exact ⟨name, rfl⟩

/-! ### Where colorways are declared -/

/-- A value may stand for a section: it is an object, or null for one that is absent. -/
def IsSection (v : Value) : Prop :=
  v = .null ∨ ∃ m, v = .object m

/-- What declares the colorways of a document: what its color section has for them, or what the document has at its
top where that is absent or null. -/
def declaring (doc : Members) : Value :=
  match (inner doc "color").get "colorways" with
  | .null => doc.get "colorways"
  | v => v

/-- The entries of the colorways of a document. -/
def entries (doc : Members) : Members :=
  (declaring doc).members?.getD []

theorem section?_eq_ok_iff {data : Members} {key place : String} {found : Option Members} : section? data key place =
    .ok found ↔ IsSection (data.get key) ∧ found = (data.get key).members? := by
  refine ⟨fun h => ⟨?_, section?_eq_ok h⟩, ?_⟩
  · unfold section? at h
    split at h
    · rename_i hnull
      exact .inl hnull
    · rename_i m hobject
      exact .inr ⟨m, hobject⟩
    · cases h
  · rintro ⟨hnull | ⟨m, hobject⟩, rfl⟩
    · simp only [section?, hnull, Value.members?]
    · simp only [section?, hobject, Value.members?]

theorem section?_eq_error {data : Members} {key place : String} {f : Fault} (h : section? data key place = .error f) :
    f = fault (.notObject (place ++ key)) := by
  unfold section? at h
  split at h
  · cases h
  · cases h
  · cases h
    rfl

/-- The entries are those within the color section; where nothing is there, they are those at the top. -/
theorem sourceOf_eq_ok {doc source : Members} :
    sourceOf doc = .ok source ↔ IsSection (doc.get "color") ∧ IsSection (declaring doc) ∧ source = entries doc := by
  constructor
  · intro h
    obtain ⟨color, hread, h⟩ := except_bind_eq_ok.mp h
    obtain ⟨hcolor, rfl⟩ := section?_eq_ok_iff.mp hread
    obtain ⟨found, hfound, h⟩ := except_bind_eq_ok.mp h
    obtain ⟨hin, hfound⟩ := section?_eq_ok_iff.mp hfound
    unfold entries declaring
    change IsSection ((inner doc "color").get "colorways") at hin
    rcases hin with hnull | ⟨m, hobject⟩
    · obtain rfl : found = none := hfound.trans (congrArg Value.members? hnull)
      obtain ⟨top, htop, h⟩ := except_bind_eq_ok.mp h
      obtain ⟨hsource, rfl⟩ := section?_eq_ok_iff.mp htop
      cases h
      rw [hnull]
      exact ⟨hcolor, hsource, rfl⟩
    · obtain rfl : found = some m := hfound.trans (congrArg Value.members? hobject)
      cases h
      rw [hobject]
      exact ⟨hcolor, .inr ⟨_, rfl⟩, rfl⟩
  · rintro ⟨hcolor, hsource, rfl⟩
    refine except_bind_eq_ok.mpr ⟨_, section?_eq_ok_iff.mpr ⟨hcolor, rfl⟩, ?_⟩
    unfold entries
    unfold declaring at hsource ⊢
    split at hsource
    · rename_i hnull
      have hnone : ((inner doc "color").get "colorways").members? = none := congrArg Value.members? hnull
      refine except_bind_eq_ok.mpr ⟨none, section?_eq_ok_iff.mpr ⟨.inl hnull, hnone.symm⟩, ?_⟩
      exact except_bind_eq_ok.mpr ⟨_, section?_eq_ok_iff.mpr ⟨hsource, rfl⟩, rfl⟩
    · rename_i v hne
      rcases hsource with hnull | ⟨m, hobject⟩
      · exact absurd hnull hne
      · have hsome : ((inner doc "color").get "colorways").members? = some m := congrArg Value.members? hobject
        refine except_bind_eq_ok.mpr ⟨some m, section?_eq_ok_iff.mpr ⟨.inr ⟨m, hobject⟩, hsome.symm⟩, ?_⟩
        rw [hobject]
        rfl

theorem sourceOf_eq_error {doc : Members} {f : Fault} (h : sourceOf doc = .error f) : ∃ problem, f = fault problem := by
  rcases except_bind_eq_error.mp h with h | ⟨color, -, h⟩
  · exact ⟨_, section?_eq_error h⟩
  · rcases except_bind_eq_error.mp h with h | ⟨found, -, h⟩
    · exact ⟨_, section?_eq_error h⟩
    · cases found with
      | some source => cases h
      | none =>
        rcases except_bind_eq_error.mp h with h | ⟨top, -, h⟩
        · exact ⟨_, section?_eq_error h⟩
        · cases h

theorem nodup_keys_entries {doc : Members} (h : (Value.object doc).DistinctKeys) : (entries doc).keys.Nodup := by
  have hdeclaring : (declaring doc).DistinctKeys := by
    unfold declaring
    split
    · exact h.get "colorways"
    · exact (distinctKeys_inner h "color").get "colorways"
  unfold entries
  cases hv : declaring doc with
  | object m =>
    rw [hv] at hdeclaring
    exact hdeclaring.keys
  | _ => exact List.nodup_nil

/-! ### Colorways under their names -/

/-- A colorway as a member of an object: its values under its name. -/
def asMember (c : Colorway) : String × Value :=
  (c.name, .object (c.values.map fun e => (e.1, .text e.2)))

theorem names_ofEntry (source : Members) : (source.map ofEntry).map (·.name) = source.keys := by
  rw [List.map_map]
  rfl

/-- Colorways with different names are all given out. -/
theorem tokensValue_of_nodup {colorways : List Colorway} (h : (colorways.map (·.name)).Nodup) (table : Table) :
    Cli.tokensValue table colorways = .object [("tokens", .list (table.map Cli.tokenValue)),
      ("colorways", .object (colorways.map asMember))] := by
  have hkeys : Members.keys (colorways.map asMember) = colorways.map (·.name) := by
    rw [Members.keys, List.map_map]
    rfl
  have hwritten : Members.ofEntries (colorways.map asMember) = colorways.map asMember :=
    Members.ofEntries_of_nodup (hkeys ▸ h)
  rw [Cli.tokensValue, ← hwritten]
  rfl

/-- A kept entry gives a colorway with values, none of which is empty. -/
theorem values_ofEntry {entry : String × Value} (h : isKept entry.2 = true) :
    (ofEntry entry).values ≠ [] ∧ ∀ e ∈ (ofEntry entry).values, e.2 ≠ "" := by
  obtain ⟨e, he, hwritten⟩ := List.any_eq_true.mp h
  refine ⟨List.ne_nil_of_mem (List.mem_map_of_mem (List.mem_filter.mpr ⟨he, hwritten⟩)), fun e' he' => ?_⟩
  obtain ⟨e, he, rfl⟩ := List.mem_map.mp he'
  exact written_ne_empty (List.mem_filter.mp he).2

theorem ofDocument_eq_ok {doc : Members} {colorways : List Colorway} : ofDocument (.object doc) = .ok colorways ↔
    IsSection (doc.get "color") ∧ IsSection (declaring doc) ∧ (∀ e ∈ entries doc, ∃ m, e.2 = .object m) ∧
      colorways = ((entries doc).filter (isKept ·.2)).map ofEntry := by
  rw [ofDocument, except_bind_eq_ok]
  constructor
  · rintro ⟨source, hsource, h⟩
    obtain ⟨hcolor, hdeclaring, rfl⟩ := sourceOf_eq_ok.mp hsource
    exact ⟨hcolor, hdeclaring, ofMembers_eq_ok.mp h⟩
  · rintro ⟨hcolor, hdeclaring, h⟩
    exact ⟨entries doc, sourceOf_eq_ok.mpr ⟨hcolor, hdeclaring, rfl⟩, ofMembers_eq_ok.mpr h⟩

/-- The colorways of a document have names of their own. -/
theorem nodup_names_ofDocument {doc : Members} (hdoc : (Value.object doc).DistinctKeys) {colorways : List Colorway}
    (h : ofDocument (.object doc) = .ok colorways) : (colorways.map (·.name)).Nodup := by
  obtain ⟨-, -, -, rfl⟩ := ofDocument_eq_ok.mp h
  rw [names_ofEntry]
  exact (List.filter_sublist.map _).nodup (nodup_keys_entries hdoc)

/-- A document declares its colorways in its color section, or at its top when nothing is there. They are the
entries in which something is written, in order, each with what is written in its members; there is no other
failure than a problem of the document. In an object no key is repeated, so the names are all different, and
colorways that are given out under them are all there. -/
theorem colorways_of_document (doc : Members) :
    (∀ colorways, ofDocument (.object doc) = .ok colorways ↔
      IsSection (doc.get "color") ∧ IsSection (declaring doc) ∧ (∀ e ∈ entries doc, ∃ m, e.2 = .object m) ∧
        colorways = ((entries doc).filter (isKept ·.2)).map ofEntry) ∧
    (∀ f, ofDocument (.object doc) = .error f → ∃ problem, f = fault problem) ∧
    ((Value.object doc).DistinctKeys → ∀ colorways, ofDocument (.object doc) = .ok colorways →
      (colorways.map (·.name)).Nodup ∧ (∀ c ∈ colorways, c.values ≠ [] ∧ ∀ e ∈ c.values, e.2 ≠ "") ∧
        ∀ table, Cli.tokensValue table colorways = .object [("tokens", .list (table.map Cli.tokenValue)),
          ("colorways", .object (colorways.map asMember))]) := by
  refine ⟨fun colorways => ofDocument_eq_ok, fun f h => ?_, fun hkeys colorways h => ?_⟩
  · rcases except_bind_eq_error.mp h with h | ⟨source, -, h⟩
    · exact sourceOf_eq_error h
    · obtain ⟨name, hname⟩ := ofMembers_eq_error h
      exact ⟨_, hname⟩
  · have hnames := nodup_names_ofDocument hkeys h
    obtain ⟨-, -, -, rfl⟩ := ofDocument_eq_ok.mp h
    refine ⟨hnames, fun c hc => ?_, tokensValue_of_nodup hnames⟩
    obtain ⟨entry, hentry, rfl⟩ := List.mem_map.mp hc
    exact values_ofEntry (List.mem_filter.mp hentry).2

/-- Colorways at the top, of which one says nothing; and a color section with a list in their place. -/
theorem colorways_of_document_mixed :
    let doc : Members := [("color", .object [("colorways", .null)]), ("colorways", .object [
      ("base", .object [("text", .text "#000"), ("note", .text ""), ("opacity", .float 0.5), ("more", .object [])]),
      ("blank", .object [("text", .text ""), ("list", .list [.int 1])]),
      ("dark", .object [("on", .bool true), ("level", .int 0)])])]
    let colorways : List Colorway :=
      [⟨"base", [("text", "#000"), ("opacity", "0.5")]⟩, ⟨"dark", [("on", "1"), ("level", "0")]⟩]
    (Value.object doc).DistinctKeys ∧ ofDocument (.object doc) = .ok colorways ∧
      Cli.tokensValue [] colorways = .object [("tokens", .list []), ("colorways", .object [
        ("base", .object [("text", .text "#000"), ("opacity", .text "0.5")]),
        ("dark", .object [("on", .text "1"), ("level", .text "0")])])] ∧
      ∃ f problem, ofDocument (.object [("color", .object [("colorways", .list [])])]) = .error f ∧ f = fault problem := by
  intro doc colorways
  have hkeys : (Value.object doc).DistinctKeys := by
    simp [doc, Value.DistinctKeys.object_iff, Value.DistinctKeys.list_iff, Members.keys, Value.DistinctKeys.text,
      Value.DistinctKeys.null, Value.DistinctKeys.float, Value.DistinctKeys.bool, Value.DistinctKeys.int]
  have hok : ofDocument (.object doc) = .ok colorways := by
    refine ((colorways_of_document doc).1 colorways).mpr ⟨.inr ⟨_, rfl⟩, .inr ⟨_, rfl⟩, ?_, ?_⟩
    · have hentries : entries doc = [("base", .object _), ("blank", .object _), ("dark", .object _)] := rfl
      rw [hentries]
      simp
    · decide +kernel
  obtain ⟨-, -, htokens⟩ := (colorways_of_document doc).2.2 hkeys colorways hok
  obtain ⟨problem, hproblem⟩ := (colorways_of_document [("color", .object [("colorways", .list [])])]).2.1 _ rfl
  exact ⟨hkeys, hok, htokens [], _, problem, rfl, hproblem⟩

end Colorway
end DesignKit
