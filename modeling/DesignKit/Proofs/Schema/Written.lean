import DesignKit.Proofs.Schema

/-! # Schemas that are written back

What a schema says is what the object says that it is read from, member by member, with the values of defaults as
they are. Written back and read again it is the same schema. Children that are left out or null are no children;
children without slots are something else, and stay so. -/

namespace DesignKit

open Checked (Stated)

theorem Checked.textOrNull_eq_ok {v : Value} {s : Option String} : textOrNull v = .ok s ↔ v = .ofText? s := by
  cases s <;> cases v <;> simp [textOrNull, text, fail, Value.ofText?, Functor.map, map]

/-! ### Fields -/

namespace Field

/-- The members of an object declare a field. -/
structure Declared (m : Members) (f : Field) : Prop where
  name : m.get? "name" = some (.text f.name)
  named : f.name ≠ ""
  default : f.default = (m.get? "default").getD (.text "")
  type : Stated (· = .ofText? ·) none (m.get? "type") f.type
  label : Stated (· = .ofText? ·) none (m.get? "label") f.label

/-- A value is an object that declares a field. -/
def DeclaredBy (v : Value) (f : Field) : Prop :=
  ∃ m, v = .object m ∧ Declared m f

theorem nameOf_eq_ok {v : Value} {s : String} : nameOf v = .ok s ↔ v = .text s ∧ s ≠ "" := by
  unfold nameOf
  split
  · simp only [Checked.fail, reduceCtorEq, Value.text.injEq, false_iff, not_and, ne_eq, not_not]
    exact Eq.symm
  · rename_i hne
    rw [Checked.text_eq_ok]
    constructor
    · rintro rfl
      exact ⟨rfl, fun h => hne (congrArg Value.text h)⟩
    · exact And.left

theorem ofValue_eq_ok {v : Value} {f : Field} : ofValue v = .ok f ↔ DeclaredBy v f := by
  rw [ofValue, Checked.record_eq_ok]
  refine exists_congr fun m => and_congr_right fun _ => ?_
  simp only [Checked.seq_eq_ok, Checked.map_eq_ok, Checked.required_eq_ok,
    Checked.optional_eq_ok_iff_stated Checked.textOrNull_eq_ok, nameOf_eq_ok]
  constructor
  · rintro ⟨_, label, ⟨_, type, ⟨_, default, ⟨name, ⟨_, hname, rfl, hne⟩, rfl⟩, hdefault, rfl⟩, htype, rfl⟩, hlabel, rfl⟩
    exact ⟨hname, hne, (Checked.ok.inj hdefault).symm, htype, hlabel⟩
  · intro h
    exact ⟨_, _, ⟨_, _, ⟨_, _, ⟨_, ⟨_, h.name, rfl, h.named⟩, rfl⟩, congrArg Checked.ok h.default.symm, rfl⟩, h.type, rfl⟩,
      h.label, rfl⟩

theorem named_of_forall₂ {vs : List Value} {fields : List Field} (h : List.Forall₂ DeclaredBy vs fields) :
    ∀ f ∈ fields, f.name ≠ "" := by
  induction h with
  | nil => nofun
  | cons hfield _ ih =>
    obtain ⟨_, -, hdeclared⟩ := hfield
    exact List.forall_mem_cons.mpr ⟨hdeclared.named, ih⟩

/-- A field with a name is declared by the object that it is written as. -/
theorem declaredBy_toValue {f : Field} (h : f.name ≠ "") : DeclaredBy f.toValue f :=
  ⟨_, rfl, rfl, h, rfl, .given rfl, .given rfl⟩

end Field

/-! ### Slots -/

namespace Slot

/-- The members of an object declare a slot. -/
structure Declared (m : Members) (s : Slot) : Prop where
  defaults : Stated (· = .object ·) [] (m.get? "defaults") s.defaults
  type : Stated (· = .ofText? ·) none (m.get? "type") s.type

/-- A value is an object that declares a slot. -/
def DeclaredBy (v : Value) (s : Slot) : Prop :=
  ∃ m, v = .object m ∧ Declared m s

theorem ofValue_eq_ok {v : Value} {s : Slot} : ofValue v = .ok s ↔ DeclaredBy v s := by
  rw [ofValue, Checked.record_eq_ok]
  refine exists_congr fun m => and_congr_right fun _ => ?_
  simp only [Checked.seq_eq_ok, Checked.map_eq_ok, Checked.optional_eq_ok_iff_stated Checked.textOrNull_eq_ok,
    Checked.optional_eq_ok_iff_stated Checked.object_eq_ok]
  constructor
  · rintro ⟨_, type, ⟨defaults, hdefaults, rfl⟩, htype, rfl⟩
    exact ⟨hdefaults, htype⟩
  · intro h
    exact ⟨_, _, ⟨_, h.defaults, rfl⟩, h.type, rfl⟩

theorem declaredBy_toValue (s : Slot) : DeclaredBy s.toValue s :=
  ⟨_, rfl, .given rfl, .given rfl⟩

/-- A list of slots, as what stands under the key for them. -/
def AllDeclaredBy (v : Value) (slots : List Slot) : Prop :=
  ∃ vs, v = .list vs ∧ List.Forall₂ DeclaredBy vs slots

/-- What is said about children: null says that there are none, an object which slots there are. -/
inductive Listed : Value → Option (List Slot) → Prop
  | null : Listed .null none
  | slots {m : Members} {slots : List Slot} (h : Stated AllDeclaredBy [] (m.get? "slots") slots) :
    Listed (.object m) (some slots)

theorem listOfValue_eq_ok {v : Value} {children : Option (List Slot)} :
    listOfValue v = .ok children ↔ Listed v children := by
  unfold listOfValue
  split
  · constructor
    · intro h
      cases h
      exact .null
    · rintro ⟨⟩
      rfl
  · rename_i hnull
    simp only [Checked.map_eq_ok, Checked.record_eq_ok,
      Checked.optional_eq_ok_iff_stated (Checked.list_eq_ok ofValue_eq_ok)]
    constructor
    · rintro ⟨slots, ⟨m, rfl, h⟩, rfl⟩
      exact .slots h
    · rintro (_ | h)
      · exact absurd rfl hnull
      · exact ⟨_, ⟨_, rfl, h⟩, rfl⟩

theorem listed_listToValue (children : Option (List Slot)) : Listed (listToValue children) children := by
  cases children with
  | none => exact .null
  | some slots =>
    refine .slots (.given ⟨_, rfl, ?_⟩)
    rw [List.forall₂_map_left_iff, List.forall₂_same]
    exact fun s _ => s.declaredBy_toValue

end Slot

/-! ### Schemas -/

namespace Schema

/-- The members of an object declare a schema. -/
structure Declared (m : Members) (s : Schema) : Prop where
  name : Stated (· = .text ·) "" (m.get? "name") s.name
  label : Stated (· = .text ·) "" (m.get? "label") s.label
  category : Stated (· = .ofText? ·) none (m.get? "category") s.category
  description : Stated (· = .ofText? ·) none (m.get? "description") s.description
  fields : Stated (fun v fields => ∃ vs, v = .list vs ∧ List.Forall₂ Field.DeclaredBy vs fields) [] (m.get? "fields")
    s.fields
  children : Stated Slot.Listed none (m.get? "children") s.children

/-- A value is an object that declares a schema. -/
def DeclaredBy (v : Value) (s : Schema) : Prop :=
  ∃ m, v = .object m ∧ Declared m s

theorem ofValue_eq_ok {v : Value} {s : Schema} : ofValue v = .ok s ↔ DeclaredBy v s := by
  cases v with
  | object m =>
    rw [ofValue_object_eq_ok]
    simp only [Checked.optional_eq_ok_iff_stated Checked.text_eq_ok,
      Checked.optional_eq_ok_iff_stated Checked.textOrNull_eq_ok,
      Checked.optional_eq_ok_iff_stated (Checked.list_eq_ok Field.ofValue_eq_ok),
      Checked.optional_eq_ok_iff_stated Slot.listOfValue_eq_ok]
    constructor
    · rintro ⟨hname, hlabel, hcategory, hdescription, hfields, hchildren⟩
      exact ⟨m, rfl, hname, hlabel, hcategory, hdescription, hfields, hchildren⟩
    · rintro ⟨_, ⟨⟩, h⟩
      exact ⟨h.name, h.label, h.category, h.description, h.fields, h.children⟩
  | _ =>
    constructor
    · intro h
      cases h
    · rintro ⟨_, ⟨⟩, -⟩

theorem Declared.named {m : Members} {s : Schema} (h : Declared m s) : ∀ f ∈ s.fields, f.name ≠ "" := by
  have hfields := h.fields
  generalize m.get? "fields" = found, s.fields = fields at hfields ⊢
  cases hfields with
  | absent => nofun
  | given hlist =>
    obtain ⟨vs, -, hall⟩ := hlist
    exact Field.named_of_forall₂ hall

theorem declaredBy_toValue {s : Schema} (h : ∀ f ∈ s.fields, f.name ≠ "") : DeclaredBy s.toValue s := by
  refine ⟨_, rfl, .given rfl, .given rfl, .given rfl, .given rfl, .given ⟨_, rfl, ?_⟩,
    .given (Slot.listed_listToValue s.children)⟩
  rw [List.forall₂_map_left_iff, List.forall₂_same]
  exact fun f hf => Field.declaredBy_toValue (h f hf)

/-- A schema that is read declares what it is read from declares, and what it is written as is read as the same
schema. -/
theorem ofValue_written {v : Value} {s : Schema} (h : ofValue v = .ok s) : DeclaredBy v s ∧ ofValue s.toValue = .ok s := by
  have hdeclared : DeclaredBy v s := ofValue_eq_ok.mp h
  refine ⟨hdeclared, ?_⟩
  obtain ⟨m, -, hm⟩ := hdeclared
  exact ofValue_eq_ok.mpr (declaredBy_toValue hm.named)

/-- A name that is declared twice, a default that is null, and slots with and without defaults. -/
theorem ofValue_written_layered :
    let v : Value := .object [("label", .text "Hero"), ("unknown", .int 1), ("category", .null),
      ("fields", .list [.object [("name", .text "a"), ("default", .null)],
        .object [("label", .text "A"), ("name", .text "a")]]),
      ("children", .object [("slots", .list [.object [],
        .object [("defaults", .object [("size", .list [.text "", .object []]), ("on", .bool false)]), ("type", .text "x")]])])]
    let s : Schema := ⟨"", "Hero", none, none, [⟨"a", .null, none, none⟩, ⟨"a", .text "", none, some "A"⟩],
      some [⟨[], none⟩, ⟨[("size", .list [.text "", .object []]), ("on", .bool false)], some "x"⟩]⟩
    ofValue v = .ok s ∧ DeclaredBy v s ∧ ofValue s.toValue = .ok s := by
  intro v s
  have h : ofValue v = .ok s := rfl
  exact ⟨h, ofValue_written h⟩

/-- No children, and children without slots. -/
example :
    ofValue (.object [("children", .null)]) = .ok blank ∧
    ofValue (.object [("children", .object [])]) = .ok { blank with children := some [] } ∧
    ofValue { blank with children := some [] }.toValue = .ok { blank with children := some [] } := ⟨rfl, rfl, rfl⟩

end Schema
end DesignKit
