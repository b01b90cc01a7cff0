import DesignKit.Css
import DesignKit.Proofs.Members

/-! # The value of a variable

A name may be added to a table more than once. The stylesheet then declares it more than once, and the last
declaration is the one that counts; collecting the table into an object keeps that one too. Looking a name up
finds the first, so it tells what the stylesheet says exactly when the first and the last value agree. -/

namespace DesignKit

/-- The value that declarations give a property: the last one of a name wins. -/
def Css.given? (declarations : List (String × String)) (property : String) : Option String :=
  (declarations.filter (·.1 == property)).getLast?.map (·.2)

namespace Table

/-- What the root block declares. -/
def declarations (t : Table) : List (String × String) :=
  t.map fun token => (token.name, token.value)

/-- The values that a table holds under a name, in order. -/
def valuesOf (t : Table) (name : String) : List String :=
  (t.filter (·.name == name)).map (·.value)

theorem foldl_add (t : Table) (added : List Token) : added.foldl add t = t ++ added := by
  induction added generalizing t with
  | nil => exact (List.append_nil t).symm
  | cons token rest ih =>
    rw [List.foldl_cons, ih]
    exact List.append_assoc t [token] rest

theorem rootLines_eq (t : Table) : Css.rootLines t = Css.block ":root" t.declarations := rfl

/-- Looking a name up finds the first value. -/
theorem get?_eq_head? (t : Table) (name : String) : t.get? name = (t.valuesOf name).head? := by
  rw [get?, valuesOf, List.head?_map, List.head?_filter]

/-- The stylesheet gives a name the last value. -/
theorem given?_eq_getLast? (t : Table) (name : String) :
    Css.given? t.declarations name = (t.valuesOf name).getLast? := by
  have hfilter : t.declarations.filter (·.1 == name) =
      (t.filter (·.name == name)).map fun token => (token.name, token.value) := List.filter_map
  rw [Css.given?, hfilter, valuesOf, List.getLast?_map, List.getLast?_map, Option.map_map]
  rfl

theorem lookup_entries (l : List Token) (name : String) :
    (l.map fun token => (token.name, Value.text token.value)).lookup name =
      (l.find? (·.name == name)).map fun token => Value.text token.value := by
  induction l with
  | nil => rfl
  | cons token rest ih =>
    rw [List.map_cons, List.lookup_cons, List.find?_cons, BEq.comm (a := name), ih]
    cases token.name == name <;> rfl

/-- The object holds the last value. -/
theorem get?_toMembers (t : Table) (name : String) :
    t.toMembers.get? name = (t.valuesOf name).getLast?.map .text := by
  rw [toMembers, Members.get?_ofEntries, ← List.map_reverse, lookup_entries, valuesOf, List.getLast?_map,
    List.getLast?_filter, Option.map_map]
  rfl

theorem valuesOf_eq_nil {t : Table} {name : String} : t.valuesOf name = [] ↔ ∀ token ∈ t, token.name ≠ name := by
  rw [valuesOf, List.map_eq_nil_iff, List.filter_eq_nil_iff]
  exact ⟨fun h token ht heq => h token ht (beq_iff_eq.mpr heq), fun h token ht heq => h token ht (beq_iff_eq.mp heq)⟩

/-- A table made by adding tokens is emitted as the block of its declarations. Its object has for each name
the value that this block gives it, and looking the name up the first value that was added. Both find nothing
exactly for the names that were never added, and they agree exactly when the first and the last value added
under the name are the same. -/
theorem views_of_adds (added : List Token) (name : String) :
    let table : Table := added.foldl add []
    Css.rootLines table = Css.block ":root" table.declarations ∧
    table.toMembers.get? name = (Css.given? table.declarations name).map .text ∧
    table.get? name = (table.valuesOf name).head? ∧
    (table.get? name = none ↔ ∀ token ∈ added, token.name ≠ name) ∧
    (table.toMembers.get? name = none ↔ ∀ token ∈ added, token.name ≠ name) ∧
    ((table.get? name).map .text = table.toMembers.get? name ↔
      (table.valuesOf name).head? = (table.valuesOf name).getLast?) := by
  intro table
  have htable : table = added := foldl_add [] added
  have habsent : table.valuesOf name = [] ↔ ∀ token ∈ added, token.name ≠ name := htable ▸ valuesOf_eq_nil
  refine ⟨rootLines_eq table, ?_, get?_eq_head? table name, ?_, ?_, ?_⟩
  · rw [get?_toMembers, given?_eq_getLast?]
  · rw [get?_eq_head?, List.head?_eq_none_iff]
    exact habsent
  · rw [get?_toMembers, Option.map_eq_none_iff, List.getLast?_eq_none_iff]
    exact habsent
  · rw [get?_eq_head?, get?_toMembers]
    constructor
    · exact fun h => Option.map_injective (fun _ _ => Value.text.inj) h
    · exact fun h => congrArg _ h

/-- A name that was added with two values is looked up as the first and emitted as the second. -/
theorem get?_ne_toMembers :
    ¬∀ (added : List Token) (name : String),
      (Table.get? (added.foldl add []) name).map .text = (Table.toMembers (added.foldl add [])).get? name := by
  intro h
  have hink := h [⟨"--ink", "Colors", "#111111"⟩, ⟨"--ink", "Colors", "#222222"⟩] "--ink"
  have hfirst : some (Value.text "#111111") = some (Value.text "#222222") := hink
  exact absurd hfirst (by simp)

end Table
end DesignKit
