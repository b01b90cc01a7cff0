import Mathlib.Data.List.Forall2
import DesignKit.Proofs.Checked
import DesignKit.Proofs.DistinctKeys
import DesignKit.Proofs.Sizes

/-! # Scale schemas

A scale schema is given by a group of items for each scale. Every item becomes a position, in order, and has the
name that it stands under unless it says another name itself. So the names are those of the group, each once, as
long as no item renames itself; then every position has a value of its own. -/

namespace DesignKit

/-- The scales that a schema names the positions of. -/
inductive ScalePart where
  | spacing
  | text
  | headings

namespace ScalePart

def positions (part : ScalePart) (schema : ScaleSchema) : List ScalePosition :=
  match part with
  | spacing => schema.spacing
  | text => schema.text
  | headings => schema.headings

/-- The key of the group that gives the positions. -/
def groupKey : ScalePart → String
  | spacing => "spacingSizes"
  | text => "textSizes"
  | headings => "headingLevels"

end ScalePart

namespace Checked
variable {α : Type} {read : Value → Checked α} {default a : α}

/-- What is read of a member that may be left out. -/
inductive Yields (read : Value → Checked α) (default : α) : Option Value → α → Prop
  | absent : Yields read default none default
  | given {v : Value} {a : α} (h : read v = .ok a) : Yields read default (some v) a

theorem yields_iff {found : Option Value} :
    Yields read default found a ↔ (found = none ∧ default = a) ∨ ∃ v, found = some v ∧ read v = .ok a := by
  constructor
  · rintro (_ | h)
    · exact .inl ⟨rfl, rfl⟩
    · exact .inr ⟨_, rfl, h⟩
  · rintro (⟨rfl, rfl⟩ | ⟨v, rfl, h⟩)
    · exact .absent
    · exact .given h

theorem optional_eq_ok_iff_yields {m : Members} {key : String} :
    optional m key default read = .ok a ↔ Yields read default (m.get? key) a :=
  optional_eq_ok.trans yields_iff.symm

/-- Of two names the first that is present counts. -/
theorem either_eq_ok {m : Members} {key alternative : String} :
    either m key alternative default read = .ok a ↔
      Yields read default ((m.get? key).or (m.get? alternative)) a := by
  unfold either Members.has
  cases hkey : m.get? key with
  | none => rw [Option.none_or, if_neg (by simp), optional_eq_ok_iff_yields]
  | some v => rw [Option.some_or, if_pos (by simp), optional_eq_ok_iff_yields, hkey]

end Checked

namespace ScaleSchema
open Checked (Yields)

/-! ### Items -/

/-- A position is what an item under a key says. Its name is the key unless the item has one. -/
structure Item (key : String) (item : Members) (p : ScalePosition) : Prop where
  name : Yields Checked.text key (item.get? "name") p.name
  position : Yields Checked.double 0.0 (item.get? "position") p.position
  cssKey : Yields Checked.textOrNull none ((item.get? "cssKey").or (item.get? "css_key")) p.cssKey

theorem ofMembers_eq_ok {m : Members} {p : ScalePosition} :
    ScalePosition.ofMembers m = .ok p ↔ Checked.required m "name" Checked.text = .ok p.name ∧
      Yields Checked.double 0.0 (m.get? "position") p.position ∧
      Yields Checked.textOrNull none ((m.get? "cssKey").or (m.get? "css_key")) p.cssKey := by
  simp only [ScalePosition.ofMembers, Checked.seq_eq_ok, Checked.map_eq_ok, ← Checked.optional_eq_ok_iff_yields,
    ← Checked.either_eq_ok]
  constructor
  · rintro ⟨_, cssKey, ⟨_, position, ⟨name, hname, rfl⟩, hposition, rfl⟩, hcssKey, rfl⟩
    exact ⟨hname, hposition, hcssKey⟩
  · rintro ⟨hname, hposition, hcssKey⟩
    exact ⟨_, _, ⟨_, _, ⟨_, hname, rfl⟩, hposition, rfl⟩, hcssKey, rfl⟩

/-- The members of an item are written over the name that it stands under. -/
theorem get?_named {m : Members} (hm : m.keys.Nodup) (key k : String) :
    (Members.update [("name", .text key)] m).get? k = (m.get? k).or (if k = "name" then some (.text key) else none) := by
  rw [Members.get?_update, Members.ofEntries_of_nodup hm, Members.get?_cons, Members.get?_nil]

theorem required_name_eq_ok {m : Members} (hm : m.keys.Nodup) {key name : String} :
    Checked.required (Members.update [("name", .text key)] m) "name" Checked.text = .ok name ↔
      Yields Checked.text key (m.get? "name") name := by
  rw [Checked.required_eq_ok, get?_named hm, if_pos rfl, Checked.yields_iff]
  cases m.get? "name" with
  | none => simp [Checked.text]
  | some v => simp

theorem positionOf_object_eq_ok {group key : String} {m : Members} (hm : m.keys.Nodup) {p : ScalePosition} :
    positionOf group key (.object m) = .ok p ↔ Item key m p := by
  have hother : ∀ k : String, k ≠ "name" → (Members.update [("name", .text key)] m).get? k = m.get? k := by
    intro k hk
    rw [get?_named hm, if_neg hk, Option.or_none]
  have hread : positionOf group key (.object m) = .ok p ↔
      ScalePosition.ofMembers (Members.update [("name", .text key)] m) = .ok p := by
    rw [← @Checked.toExcept_eq_ok _ "ScalePosition"]
    unfold positionOf
    simp only
    cases (ScalePosition.ofMembers (Members.update [("name", .text key)] m)).toExcept "ScalePosition" <;> simp
  rw [hread, ofMembers_eq_ok, required_name_eq_ok hm, hother "position" (by decide), hother "cssKey" (by decide),
    hother "css_key" (by decide)]
  exact ⟨fun ⟨hn, hp, hc⟩ => ⟨hn, hp, hc⟩, fun h => ⟨h.name, h.position, h.cssKey⟩⟩

/-- An entry of a group holds an item that a position comes from. -/
def EntryOf (entry : String × Value) (p : ScalePosition) : Prop :=
  ∃ item : Members, entry.2 = .object item ∧ Item entry.1 item p

theorem positionOf_eq_ok {group : String} {entry : String × Value} (hentry : entry.2.DistinctKeys)
    {p : ScalePosition} :
    positionOf group entry.1 entry.2 = .ok p ↔ EntryOf entry p := by
  obtain ⟨key, v⟩ := entry
  cases v with
  | object item =>
    constructor
    · exact fun h => ⟨item, rfl, (positionOf_object_eq_ok hentry.keys).mp h⟩
    · rintro ⟨_, ⟨⟩, h⟩
      exact (positionOf_object_eq_ok hentry.keys).mpr h
  | _ =>
    constructor
    · intro h
      cases h
    · rintro ⟨_, ⟨⟩, -⟩

/-! ### Names -/

/-- The item of an entry has no other name than the key. -/
def KeepsKey (entry : String × Value) : Prop :=
  ∀ (item : Members) (v : Value), entry.2 = .object item → item.get? "name" = some v → v = .text entry.1

theorem EntryOf.name_eq_iff {entry : String × Value} {p : ScalePosition} (h : EntryOf entry p) :
    p.name = entry.1 ↔ KeepsKey entry := by
  obtain ⟨item, hitem, h⟩ := h
  have hname := Checked.yields_iff.mp h.name
  constructor
  · intro heq item' v hitem' hv
    cases hitem.symm.trans hitem'
    rcases hname with ⟨hnone, -⟩ | ⟨w, hw, htext⟩
    · rw [hv] at hnone
      cases hnone
    · cases hv.symm.trans hw
      rw [Checked.text_eq_ok.mp htext, heq]
  · intro hkeeps
    rcases hname with ⟨-, hkey⟩ | ⟨w, hw, htext⟩
    · exact hkey.symm
    · rw [hkeeps item w hitem hw] at htext
      exact (Value.text.inj (Checked.text_eq_ok.mp htext)).symm

theorem names_eq_keys_iff {items : Members} {ps : List ScalePosition} (h : List.Forall₂ EntryOf items ps) :
    ps.map (·.name) = items.keys ↔ ∀ entry ∈ items, KeepsKey entry := by
  induction h with
  | nil => exact ⟨fun _ => nofun, fun _ => rfl⟩
  | @cons entry p items ps hentry _ ih =>
    show p.name :: ps.map (·.name) = entry.1 :: Members.keys items ↔ _
    rw [List.cons_eq_cons, hentry.name_eq_iff, ih, List.forall_mem_cons]

/-! ### Groups -/

/-- The positions that data gives for a scale: one for each entry of its group, or the standard ones where there is
none. -/
inductive Filled (data : Members) (part : ScalePart) : List ScalePosition → Prop
  | absent (h : data.get part.groupKey = .null) : Filled data part (part.positions standard)
  | empty {group : Members} (h : data.get part.groupKey = .object group) (hitems : group.get "items" = .object []) :
    Filled data part (part.positions standard)
  | items {group items : Members} {ps : List ScalePosition} (h : data.get part.groupKey = .object group)
    (hitems : group.get "items" = .object items) (hne : items ≠ []) (hps : List.Forall₂ EntryOf items ps) :
    Filled data part ps

theorem mapM_eq_ok_iff_forall₂ {group : String} {items : Members} (hitems : (Value.object items).DistinctKeys)
    {ps : List ScalePosition} :
    (items.mapM fun (name, item) => positionOf group name item) = .ok ps ↔ List.Forall₂ EntryOf items ps := by
  have hentries : ∀ entry ∈ items, entry.2.DistinctKeys := fun entry hentry => hitems.member hentry
  rw [except_mapM_eq_ok, ← List.forall₂_eq_eq_eq, List.forall₂_map_left_iff, List.forall₂_map_right_iff]
  constructor
  · intro h
    refine ((List.forall₂_and_left items ps).mpr ⟨hentries, h⟩).imp fun entry p ⟨hentry, hp⟩ => ?_
    exact (positionOf_eq_ok hentry).mp hp
  · intro h
    refine ((List.forall₂_and_left items ps).mpr ⟨hentries, h⟩).imp fun entry p ⟨hentry, hp⟩ => ?_
    exact (positionOf_eq_ok hentry).mpr hp

theorem items_eq_some {v : Value} {items : Members} :
    (v.members?.bind fun m => (m.get "items").members?) = some items ↔
      ∃ group : Members, v = .object group ∧ group.get "items" = .object items := by
  simp only [Option.bind_eq_some_iff, Value.members?_eq_some]

theorem distinctKeys_items {data group items : Members} {key : String} (hdata : (Value.object data).DistinctKeys)
    (hgroup : data.get key = .object group) (hitems : group.get "items" = .object items) :
    (Value.object items).DistinctKeys := by
  have hobject := hdata.get key
  rw [hgroup] at hobject
  exact hitems ▸ hobject.get "items"

/-- The items of a group are read one by one, those of a group that is absent not at all. -/
theorem positions_eq_ok {data : Members} (hdata : (Value.object data).DistinctKeys) {key : String}
    {ps : List ScalePosition} : positions data key = .ok ps ↔
      (data.get key = .null ∧ ps = []) ∨ ∃ group items : Members, data.get key = .object group ∧
        group.get "items" = .object items ∧ List.Forall₂ EntryOf items ps := by
  unfold positions
  split
  case h_1 hnull =>
    rw [hnull]
    constructor
    · intro h
      cases h
      exact .inl ⟨rfl, rfl⟩
    · rintro (⟨-, rfl⟩ | ⟨group, -, h, -⟩)
      · rfl
      · cases h
  case h_2 hpresent =>
    rw [or_iff_right fun h => hpresent h.1]
    split
    case h_1 items hitems =>
      obtain ⟨group, hgroup, hitems⟩ := items_eq_some.mp hitems
      rw [mapM_eq_ok_iff_forall₂ (distinctKeys_items hdata hgroup hitems)]
      constructor
      · exact fun h => ⟨group, items, hgroup, hitems, h⟩
      · rintro ⟨group', items', hgroup', hitems', h⟩
        cases hgroup.symm.trans hgroup'
        cases hitems.symm.trans hitems'
        exact h
    case h_2 hnone =>
      constructor
      · intro h
        cases h
      · rintro ⟨group, items, hgroup, hitems, -⟩
        rw [items_eq_some.mpr ⟨group, hgroup, hitems⟩] at hnone
        cases hnone

theorem orElse_eq (given others : List ScalePosition) : orElse given others = if given = [] then others else given := by
  unfold orElse
  simp only [List.isEmpty_iff]

/-- A group is filled from the positions that its items give. -/
theorem filled_iff {data : Members} (hdata : (Value.object data).DistinctKeys) {part : ScalePart}
    {ps : List ScalePosition} :
    Filled data part ps ↔
      ∃ given, positions data part.groupKey = .ok given ∧ orElse given (part.positions standard) = ps := by
  simp only [positions_eq_ok hdata, orElse_eq]
  constructor
  · rintro (hnull | ⟨h, hitems⟩ | ⟨h, hitems, hne, hps⟩)
    · exact ⟨[], .inl ⟨hnull, rfl⟩, rfl⟩
    · exact ⟨[], .inr ⟨_, [], h, hitems, .nil⟩, rfl⟩
    · refine ⟨ps, .inr ⟨_, _, h, hitems, hps⟩, if_neg ?_⟩
      rintro rfl
      exact hne (List.forall₂_nil_right_iff.mp hps)
  · rintro ⟨given, ⟨hnull, rfl⟩ | ⟨group, items, h, hitems, hps⟩, rfl⟩
    · exact .absent hnull
    · cases hps with
      | nil => exact .empty h hitems
      | cons hentry hrest => exact .items h hitems (List.cons_ne_nil _ _) (.cons hentry hrest)

/-- Data gives a schema when it gives the positions of each group. -/
theorem ofValue_eq_ok {data : Members} (hdata : (Value.object data).DistinctKeys) {schema : ScaleSchema} :
    ofValue (.object data) = .ok schema ↔ ∀ part : ScalePart, Filled data part (part.positions schema) := by
  constructor
  · intro h
    obtain ⟨spacing, hspacing, h⟩ := except_bind_eq_ok.mp h
    obtain ⟨text, htext, h⟩ := except_bind_eq_ok.mp h
    obtain ⟨headings, hheadings, h⟩ := except_bind_eq_ok.mp h
    cases h
    intro part
    rw [filled_iff hdata]
    cases part with
    | spacing => exact ⟨spacing, hspacing, rfl⟩
    | text => exact ⟨text, htext, rfl⟩
    | headings => exact ⟨headings, hheadings, rfl⟩
  · intro h
    obtain ⟨spacing, hspacing, hs⟩ := (filled_iff hdata).mp (h .spacing)
    obtain ⟨text, htext, ht⟩ := (filled_iff hdata).mp (h .text)
    obtain ⟨headings, hheadings, hh⟩ := (filled_iff hdata).mp (h .headings)
    have hschema : schema = ⟨orElse spacing standard.spacing, orElse text standard.text,
        orElse headings standard.headings⟩ := by
      cases schema
      cases hs
      cases ht
      cases hh
      rfl
    unfold ofValue
    rw [except_bind_eq_ok]
    refine ⟨spacing, hspacing, except_bind_eq_ok.mpr ⟨text, htext, except_bind_eq_ok.mpr ⟨headings, hheadings, ?_⟩⟩⟩
    rw [hschema]
    rfl

theorem Filled.entries {data group items : Members} {part : ScalePart} {ps : List ScalePosition} (h : Filled data part ps)
    (hgroup : data.get part.groupKey = .object group) (hitems : group.get "items" = .object items) (hne : items ≠ []) :
    List.Forall₂ EntryOf items ps := by
  cases h with
  | absent hnull =>
    rw [hgroup] at hnull
    cases hnull
  | empty hgroup' hempty =>
    cases hgroup.symm.trans hgroup'
    cases hitems.symm.trans hempty
    exact absurd rfl hne
  | items hgroup' hitems' _ hps =>
    cases hgroup.symm.trans hgroup'
    cases hitems.symm.trans hitems'
    exact hps

/-- Data is accepted exactly when each of its groups is absent or holds items of which each gives a position; the
positions are then those of the items in order, or the standard ones if there are none. They are named by the keys of
the items exactly when no item has another name of its own. What a position is given is the value of the last one of
its name, and its own value when every item keeps its key. -/
theorem schema_of_groups {data : Members} (hdata : (Value.object data).DistinctKeys) (schema : ScaleSchema) :
    (ofValue (.object data) = .ok schema ↔ ∀ part : ScalePart, Filled data part (part.positions schema)) ∧
    (ofValue (.object data) = .ok schema → ∀ (part : ScalePart) (group items : Members),
      data.get part.groupKey = .object group → group.get "items" = .object items → items ≠ [] →
        (part.positions schema).length = items.length ∧
        ((part.positions schema).map (·.name) = items.keys ↔ ∀ entry ∈ items, KeepsKey entry) ∧
        (∀ (s : Scale) (overrides values : Members) (digits : Int),
          s.sizes overrides digits (part.positions schema) = .ok values → ∀ p ∈ part.positions schema,
            ∃ q, (part.positions schema).reverse.find? (·.name == p.name) = some q ∧
              s.valueAt overrides digits q = .ok (values.get p.name)) ∧
        ((∀ entry ∈ items, KeepsKey entry) → ((part.positions schema).map (·.name)).Nodup ∧
          ∀ (s : Scale) (overrides values : Members) (digits : Int),
            s.sizes overrides digits (part.positions schema) = .ok values → ∀ p ∈ part.positions schema,
              s.valueAt overrides digits p = .ok (values.get p.name))) := by
  refine ⟨ofValue_eq_ok hdata, fun h part group items hgroup hitems hne => ?_⟩
  have hps : List.Forall₂ EntryOf items (part.positions schema) :=
    ((ofValue_eq_ok hdata).mp h part).entries hgroup hitems hne
  refine ⟨hps.length_eq.symm, names_eq_keys_iff hps, fun s overrides values digits hsizes p hp => ?_, fun hkeep => ?_⟩
  · obtain ⟨q, -, -, hq, hvalue⟩ := Scale.valueAt_last hsizes hp
    exact ⟨q, hq, hvalue⟩
  · have hnodup : ((part.positions schema).map (·.name)).Nodup := by
      rw [(names_eq_keys_iff hps).mpr hkeep]
      exact (distinctKeys_items hdata hgroup hitems).keys
    exact ⟨hnodup, fun s overrides values digits hsizes p hp => Scale.valueAt_eq_get_sizes hsizes hnodup hp⟩

/-- Two items, of which one says the name that it stands under anyway. -/
def plainItems : Members :=
  [("s", .object [("position", .int (-1))]), ("l", .object [("position", .int 2), ("name", .text "l")])]

def plainData : Members :=
  [("spacingSizes", .object [("items", .object plainItems)]), ("headingLevels", .null)]

def plainSchema : ScaleSchema :=
  ⟨[⟨"s", -1.0, none⟩, ⟨"l", 2.0, none⟩], standard.text, standard.headings⟩

def plainSizes : Members :=
  [("s", .object [("enabled", .bool true), ("value", .int 4)]),
    ("l", .object [("enabled", .bool true), ("value", .int 9)])]

theorem schema_of_groups_plain :
    ofValue (.object plainData) = .ok plainSchema ∧
      (∀ part : ScalePart, Filled plainData part (part.positions plainSchema)) ∧
      plainSchema.spacing.map (·.name) = plainItems.keys ∧ (plainSchema.spacing.map (·.name)).Nodup ∧
      ∀ p ∈ plainSchema.spacing, (⟨16.0, 1.5⟩ : Scale).valueAt plainSizes 0 p =
        .ok (Members.get [("s", .int 4), ("l", .int 9)] p.name) := by
  have hdata : (Value.object plainData).DistinctKeys := by
    simp [plainData, plainItems, Value.DistinctKeys.object_iff, Members.keys, Value.DistinctKeys.null,
      Value.DistinctKeys.int, Value.DistinctKeys.text]
  have hschema : ofValue (.object plainData) = .ok plainSchema := rfl
  have hkeep : ∀ entry ∈ plainItems, KeepsKey entry := by
    simp only [plainItems, List.forall_mem_cons]
    refine ⟨?_, ?_, List.forall_mem_nil _⟩
    · intro item v hitem hv
      cases hitem
      cases hv
    · intro item v hitem hv
      cases hitem
      cases hv
      rfl
  obtain ⟨hfilled, hgroups⟩ := schema_of_groups hdata plainSchema
  obtain ⟨-, hnames, -, hown⟩ := hgroups hschema .spacing _ plainItems rfl rfl (List.cons_ne_nil _ _)
  obtain ⟨hnodup, hvalues⟩ := hown hkeep
  exact ⟨hschema, hfilled.mp hschema, hnames.mpr hkeep, hnodup, hvalues ⟨16.0, 1.5⟩ plainSizes _ 0 rfl⟩

/-- Two items, of which one says the name of the other. -/
def renamedItems : Members :=
  [("a", .object [("position", .int 1), ("name", .text "b")]), ("b", .object [("position", .int 2)])]

def renamedSchema : ScaleSchema :=
  ⟨[⟨"b", 1.0, none⟩, ⟨"b", 2.0, none⟩], standard.text, standard.headings⟩

/-- An item that says a name of its own takes that of another one, and a group that is there but holds no items is
filled with the standard positions. -/
theorem names_ne_keys :
    (ofValue (.object [("spacingSizes", .object [("items", .object renamedItems)])]) = .ok renamedSchema ∧
      renamedSchema.spacing.map (·.name) = ["b", "b"] ∧ renamedItems.keys = ["a", "b"] ∧
      ¬(renamedSchema.spacing.map (·.name)).Nodup) ∧
    ofValue (.object [("spacingSizes", .object [("items", .object [])])]) = .ok standard ∧
      standard.spacing.length = 7 := by
  refine ⟨⟨rfl, rfl, rfl, ?_⟩, rfl, rfl⟩
  show ¬["b", "b"].Nodup
  decide

end ScaleSchema
end DesignKit
