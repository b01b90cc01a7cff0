import DesignKit.Proofs.Interpolation

/-! # The shape of interpolated values

Interpolation reaches the texts of a value and nothing else: objects keep their keys in order, lists keep their
length, and numbers, truth values and null stay as they are. A text in which no placeholder leads to a scalar stays
as it is too; where this is so of all texts, at every depth, nothing changes. -/

namespace DesignKit

namespace Value

/-- Two values have one shape: lists have one length and objects the same keys in the same order, with items and
members of one shape in the same places, a text stands where a text stands, and all else is the same. -/
inductive SameShape : Value → Value → Prop
  | null : SameShape .null .null
  | bool (b : Bool) : SameShape (.bool b) (.bool b)
  | int (n : Int) : SameShape (.int n) (.int n)
  | float (x : Float) : SameShape (.float x) (.float x)
  | text (s t : String) : SameShape (.text s) (.text t)
  | list {vs ws : List Value} (hitems : List.Forall₂ SameShape vs ws) : SameShape (.list vs) (.list ws)
  | object {m n : Members} (hkeys : m.keys = n.keys)
      (hmembers : List.Forall₂ SameShape (m.map (·.2)) (n.map (·.2))) : SameShape (.object m) (.object n)

mutual

/-- The texts in a value at every depth, in order. Keys are not among them. -/
def texts : Value → List String
  | text s => [s]
  | list items => textsOfItems items
  | object members => textsOfMembers members
  | _ => []

def textsOfItems : List Value → List String
  | [] => []
  | v :: rest => texts v ++ textsOfItems rest

def textsOfMembers : List (String × Value) → List String
  | [] => []
  | (_, v) :: rest => texts v ++ textsOfMembers rest

end

variable (context : Value)

theorem keys_interpolateMembers (m : Members) : Members.keys (interpolateMembers context m) = m.keys := by
  induction m with
  | nil => rfl
  | cons e rest ih => exact congrArg (e.1 :: ·) ih

mutual

theorem sameShape_interpolate : ∀ v : Value, SameShape v (interpolate context v)
  | .null => .null
  | .bool b => .bool b
  | .int n => .int n
  | .float x => .float x
  | .text s => .text s _
  | .list items => .list (sameShape_items items)
  | .object m => .object (keys_interpolateMembers context m).symm (sameShape_members m)

theorem sameShape_items : ∀ items : List Value, List.Forall₂ SameShape items (interpolateItems context items)
  | [] => .nil
  | v :: rest => .cons (sameShape_interpolate v) (sameShape_items rest)

theorem sameShape_members :
    ∀ m : List (String × Value), List.Forall₂ SameShape (m.map (·.2)) ((interpolateMembers context m).map (·.2))
  | [] => .nil
  | (_, v) :: rest => .cons (sameShape_interpolate v) (sameShape_members rest)

end

mutual

/-- The texts of an interpolated value are those of the value, interpolated one by one. -/
theorem texts_interpolate : ∀ v : Value, (interpolate context v).texts = v.texts.map (Interpolation.interpolate context)
  | .null => rfl
  | .bool _ => rfl
  | .int _ => rfl
  | .float _ => rfl
  | .text _ => rfl
  | .list items => textsOfItems_interpolate items
  | .object m => textsOfMembers_interpolate m

theorem textsOfItems_interpolate : ∀ items : List Value,
    textsOfItems (interpolateItems context items) = (textsOfItems items).map (Interpolation.interpolate context)
  | [] => rfl
  | v :: rest => by
    rw [interpolateItems, textsOfItems, textsOfItems, texts_interpolate, textsOfItems_interpolate, List.map_append]

theorem textsOfMembers_interpolate : ∀ m : List (String × Value),
    textsOfMembers (interpolateMembers context m) = (textsOfMembers m).map (Interpolation.interpolate context)
  | [] => rfl
  | (_, v) :: rest => by
    rw [interpolateMembers, textsOfMembers, textsOfMembers, texts_interpolate, textsOfMembers_interpolate,
      List.map_append]

end

variable {context}

mutual

/-- A value all of whose texts stay as they are stays as it is. -/
theorem interpolate_eq_self : ∀ v : Value, (∀ s ∈ v.texts, Interpolation.interpolate context s = s) →
    interpolate context v = v
  | .null, _ => rfl
  | .bool _, _ => rfl
  | .int _, _ => rfl
  | .float _, _ => rfl
  | .text s, h => congrArg Value.text (h s List.mem_cons_self)
  | .list items, h => congrArg Value.list (interpolateItems_eq_self items h)
  | .object m, h => congrArg Value.object (interpolateMembers_eq_self m h)

theorem interpolateItems_eq_self : ∀ items : List Value,
    (∀ s ∈ textsOfItems items, Interpolation.interpolate context s = s) → interpolateItems context items = items
  | [], _ => rfl
  | v :: rest, h => by
    rw [interpolateItems, interpolate_eq_self v fun s hs => h s (List.mem_append_left _ hs),
      interpolateItems_eq_self rest fun s hs => h s (List.mem_append_right _ hs)]

theorem interpolateMembers_eq_self : ∀ m : List (String × Value),
    (∀ s ∈ textsOfMembers m, Interpolation.interpolate context s = s) → interpolateMembers context m = m
  | [], _ => rfl
  | (key, v) :: rest, h => by
    rw [interpolateMembers, interpolate_eq_self v fun s hs => h s (List.mem_append_left _ hs),
      interpolateMembers_eq_self rest fun s hs => h s (List.mem_append_right _ hs)]

end

end Value

/-! ### Placeholders that stay -/

namespace Interpolation

/-- A text holds the placeholder of a path. -/
def Holds (s w : String) : Prop :=
  IsPath w ∧ ∃ a b, s = a ++ "\x7b" ++ w ++ "\x7d" ++ b

/-- A path leads to a scalar: to a value that is neither null nor a list nor an object. -/
def FindsScalar (context : Value) (w : String) : Prop :=
  ∃ v, Finds context w v ∧ v ≠ .null ∧ (∀ items, v ≠ .list items) ∧ ∀ members, v ≠ .object members

theorem resolve?_eq_none {context : Value} {w : String} (h : ¬ FindsScalar context w) :
    resolve? context w.toList = none := by
  refine Option.eq_none_iff_forall_ne_some.mpr fun text hsome => h ?_
  obtain ⟨v, hv, htext⟩ := resolve?_eq_some.mp hsome
  have hscalar : ¬ (v = .null ∨ (∃ items, v = .list items) ∨ ∃ members, v = .object members) := fun hnone => by
    rw [scalarText?_eq_none.mpr hnone] at htext
    cases htext
  rw [not_or, not_or, not_exists, not_exists] at hscalar
  exact ⟨v, hv, hscalar⟩

/-- A text stays as it is when none of its placeholders leads to a scalar. -/
theorem interpolate_of_unresolved {context : Value} {s : String} (h : ∀ w, Holds s w → ¬ FindsScalar context w) :
    interpolate context s = s := by
  rw [interpolate, interpolateChars_of_unresolved, String.ofList_toList]
  intro a w b hne hw heq
  have hholds : Holds s (String.ofList w) := by
    refine ⟨isPath_ofList hne hw, String.ofList a, String.ofList b, ?_⟩
    rw [← String.toList_inj, heq]
    simp [opening, closing]
  simpa using resolve?_eq_none (h _ hholds)

/-- In an empty context no path leads anywhere. -/
theorem not_findsScalar_empty (w : String) : ¬ FindsScalar (.object []) w := by
  rintro ⟨v, ⟨-, hleads⟩, -⟩
  generalize hsegments : w.toList.splitOn '.' = segments at hleads
  cases hleads with
  | done => exact absurd hsegments (List.splitOn_ne_nil _ _)
  | member h _ => cases h

/-- An interpolated bag has the shape of the bag, and its texts are those of the bag, each interpolated. It is the bag
itself when no placeholder in a text of the bag, at any depth, leads to a scalar, as in an empty context. -/
theorem interpolate_keeps_shape (context props : Members) :
    Value.SameShape (.object props) (.object (props.interpolate (.object context))) ∧
    (Value.object (props.interpolate (.object context))).texts =
      (Value.object props).texts.map (interpolate (.object context)) ∧
    ((∀ s ∈ (Value.object props).texts, ∀ w, Holds s w → ¬ FindsScalar (.object context) w) →
      props.interpolate (.object context) = props) ∧
    props.interpolate (.object []) = props := by
  have hsame : ∀ context : Value, (∀ s ∈ (Value.object props).texts, ∀ w, Holds s w → ¬ FindsScalar context w) →
      props.interpolate context = props := fun context h =>
    Value.interpolateMembers_eq_self props fun s hs => interpolate_of_unresolved (h s hs)
  exact ⟨Value.sameShape_interpolate _ (.object props), Value.texts_interpolate _ (.object props), hsame _,
    hsame _ fun _ _ w _ => not_findsScalar_empty w⟩

/-- A context with nothing but null and an empty list at the ends of its paths. -/
def hollow : Members :=
  [("row", .object [("name", .null), ("tags", .list [])])]

/-- Props with placeholders in a list and in an object, and with what looks like one in a key. -/
def cell : Members :=
  [("items", .list [.text "\x7brow.name\x7d, \x7brow.tags.0\x7d", .int 3]),
    ("\x7brow\x7d", .object [("text", .text "\x7b\x7brow\x7d")])]

theorem interpolate_keeps_shape_hollow :
    (∀ s ∈ (Value.object cell).texts, ∀ w, Holds s w → ¬ FindsScalar (.object hollow) w) ∧
      cell.interpolate (.object hollow) = cell := by
  have hnone : ∀ w, ¬ FindsScalar (.object hollow) w := by
    rintro w ⟨v, ⟨-, hleads⟩, hnull, hlist, hobject⟩
    generalize w.toList.splitOn '.' = segments at hleads
    cases hleads with
    | done => exact hobject _ rfl
    | @member _ _ _ row _ hrow hrest =>
      have heq : row = .object [("name", .null), ("tags", .list [])] :=
        (Prod.mk.inj (List.mem_singleton.mp (Members.mem_of_get? hrow))).2
      subst heq
      cases hrest with
      | done => exact hobject _ rfl
      | @member _ _ _ last _ hlast hrest =>
        have hends : last = .null ∨ last = .list [] := by
          rcases List.mem_cons.mp (Members.mem_of_get? hlast) with heq | hmem
          · exact .inl (Prod.mk.inj heq).2
          · exact .inr (Prod.mk.inj (List.mem_singleton.mp hmem)).2
        rcases hends with rfl | rfl
        · cases hrest
          exact hnull rfl
        · cases hrest with
          | done => exact hlist _ rfl
          | item _ _ hitem _ => cases hitem
  have h := fun (s : String) (_ : s ∈ (Value.object cell).texts) (w : String) (_ : Holds s w) => hnone w
  exact ⟨h, (interpolate_keeps_shape hollow cell).2.2.1 h⟩

end Interpolation
end DesignKit
