import DesignKit.Markup.Helper
import DesignKit.Proofs.Children

/-! # Class lists

A class list is made of names with conditions. Given texts as names it always comes about, and it has a name
exactly when the last condition for it is true. In the page the list is one text again, and a browser takes it
apart at its blanks: so a name that holds a blank gives more than one class. -/

namespace DesignKit

theorem lookup_map_snd {α β γ : Type} [BEq α] (f : β → γ) (l : List (α × β)) (k : α) :
    (l.map fun e => (e.1, f e.2)).lookup k = (l.lookup k).map f := by
  induction l with
  | nil => rfl
  | cons entry rest ih =>
    rw [List.map_cons, List.lookup_cons, List.lookup_cons, ih]
    cases k == entry.1 <;> rfl

/-! ### Names that are chosen -/

namespace Helper

/-- The names of conditions in a class list: each once, with the last condition for it, those that hold. -/
def chosen (conditions : List (String × Bool)) : List String :=
  ((Members.ofEntries (conditions.map fun e => (e.1, .bool e.2))).filter fun e => e.1 != "" && e.2.truthy).map (·.1)

theorem set_ofMembers (m : Members) (name : String) (v : Value) :
    (Entries.ofMembers m).set (.text name) v = Entries.ofMembers (m.set name v) := by
  induction m with
  | nil => rfl
  | cons entry rest ih =>
    obtain ⟨key, w⟩ := entry
    have hsame : (Value.text key).same (.text name) = (key == name) := by
      rw [Value.same]
    simp only [Entries.ofMembers, List.map_cons, Entries.set, Members.set, hsame] at ih ⊢
    cases key == name
    · simpa using ih
    · simp

theorem foldl_set_named (conditions : List (String × Bool)) (m : Members) :
    (conditions.map fun e => named e.1 e.2).foldl (fun m e => m.set e.1 e.2) (Entries.ofMembers m) =
      Entries.ofMembers (m.update (conditions.map fun e => (e.1, .bool e.2))) := by
  induction conditions generalizing m with
  | nil => rfl
  | cons entry rest ih =>
    rw [List.map_cons, List.map_cons, List.foldl_cons, Members.update_cons, ← ih, ← set_ofMembers]
    rfl

theorem chosenNames_ofMembers (m : Members) :
    chosenNames (Entries.ofMembers m) = .ok ((m.filter fun e => e.1 != "" && e.2.truthy).map (·.1)) := by
  induction m with
  | nil => rfl
  | cons entry rest ih =>
    obtain ⟨name, v⟩ := entry
    have htruthy : (Value.text name).truthy = (name != "") := rfl
    simp only [Entries.ofMembers, List.map_cons, chosenNames, htruthy] at ih ⊢
    rw [ih]
    cases hc : (name != "" && v.truthy) <;> simp [hc, Value.text?, Functor.map, Except.map]

/-- A class list of names is the names that are chosen, with blanks between them. -/
theorem classes_named (conditions : List (String × Bool)) :
    classes (conditions.map fun e => named e.1 e.2) = .ok (" ".intercalate (chosen conditions)) := by
  have hkeys : ((conditions.map fun e => named e.1 e.2).all fun e => e.1.isKey) = true := by
    simp [named, Value.isKey]
  have hfold := foldl_set_named conditions []
  unfold classes
  rw [if_pos hkeys]
  show (" ".intercalate ·) <$> chosenNames (List.foldl _ (Entries.ofMembers []) _) = _
  rw [hfold, chosenNames_ofMembers]
  rfl

/-- A name is chosen by the last condition for it. -/
theorem mem_chosen {conditions : List (String × Bool)} {name : String} :
    name ∈ chosen conditions ↔ name ≠ "" ∧ conditions.reverse.lookup name = some true := by
  have hkeys := Members.nodup_keys_ofEntries (conditions.map fun e => (e.1, Value.bool e.2))
  have hentry : ∀ v, (name, v) ∈ Members.ofEntries (conditions.map fun e => (e.1, Value.bool e.2)) ↔
      (conditions.reverse.lookup name).map Value.bool = some v := by
    intro v
    rw [← Members.get?_eq_some_iff hkeys, Members.get?_ofEntries, ← List.map_reverse, lookup_map_snd]
  simp only [chosen, List.mem_map, List.mem_filter]
  constructor
  · rintro ⟨⟨key, v⟩, ⟨hmem, hchosen⟩, rfl⟩
    obtain ⟨hname, htruthy⟩ : key ≠ "" ∧ v.truthy = true := by simpa using hchosen
    obtain ⟨b, hb, rfl⟩ := Option.map_eq_some_iff.mp ((hentry v).mp hmem)
    exact ⟨hname, hb.trans (congrArg some htruthy)⟩
  · rintro ⟨hname, hlast⟩
    refine ⟨(name, .bool true), ⟨(hentry _).mpr (by rw [hlast]; rfl), ?_⟩, rfl⟩
    simpa [Value.truthy] using hname

end Helper

/-! ### Classes of a list -/

namespace ClassList

/-- The blanks at which a browser takes a class list apart. -/
def separates (c : Char) : Bool :=
  [' ', '\t', '\n', '\x0c', '\r'].contains c

/-- A class list has a class: one of the parts between its blanks is the name. -/
def Has (list name : String) : Prop :=
  name.toList ∈ list.toList.splitOnP separates

instance (list name : String) : Decidable (Has list name) :=
  inferInstanceAs (Decidable (_ ∈ _))

/-- A text without blanks is one class. -/
theorem has_iff_eq {list : String} (h : list.toList.any separates = false) {name : String} :
    Has list name ↔ name = list := by
  have hparts : list.toList.splitOnP separates = [list.toList] :=
    List.splitOnP_eq_singleton fun c hc => eq_false_of_ne_true (List.any_eq_false.mp h c hc)
  rw [Has, hparts, List.mem_singleton, String.toList_inj]

theorem has_append_blank (first rest name : String) :
    Has (first ++ " " ++ rest) name ↔ Has first name ∨ Has rest name := by
  have hparts : (first ++ " " ++ rest).toList.splitOnP separates =
      first.toList.splitOnP separates ++ rest.toList.splitOnP separates := by
    have hchars : (first ++ " " ++ rest).toList = first.toList ++ ' ' :: rest.toList := by simp
    rw [hchars, List.splitOnP_append_cons _ _ (by decide)]
  rw [Has, hparts, List.mem_append, Has, Has]

/-- Names with blanks between them have the classes that any of them has. -/
theorem has_intercalate {names : List String} (h : names ≠ []) (name : String) :
    Has (" ".intercalate names) name ↔ ∃ part ∈ names, Has part name := by
  induction names with
  | nil => exact absurd rfl h
  | cons first rest ih =>
    cases rest with
    | nil => simp
    | cons second others =>
      rw [String.intercalate_cons_cons, has_append_blank, ih (List.cons_ne_nil _ _)]
      simp

end ClassList
end DesignKit
