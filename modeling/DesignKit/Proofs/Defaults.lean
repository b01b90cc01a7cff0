import DesignKit.Proofs.Members

/-! # Bags filled with defaults

A filled bag begins with the given props. Behind them stand the declared names that they lack, each once, in the
order in which the schema declares them, with the default of the first field of the name. Then no declared name is
lacking, so a filled bag is not filled any further. -/

namespace DesignKit

theorem removeAll_concat {α : Type} [BEq α] (l given : List α) (a : α) :
    l.removeAll (given ++ [a]) = (l.removeAll given).filter fun b => !b == a := by
  simp only [List.removeAll, List.filter_filter]
  refine List.filter_congr fun b _ => ?_
  simp [Bool.and_comm]

namespace Schema

/-- The names of the fields, in order, as often as they are declared. -/
def fieldNames (s : Schema) : List String :=
  s.fields.map (·.name)

theorem exists_foldl_added (fields : List Field) (props : Members) :
    ∃ added : Members, added.keys = ((fields.map (·.name)).removeAll props.keys).eraseDups ∧
      fields.foldl (fun m f => if m.has f.name then m else m ++ [(f.name, f.default)]) props = props ++ added := by
  induction fields generalizing props with
  | nil => exact ⟨[], rfl, (List.append_nil props).symm⟩
  | cons f rest ih =>
    rw [List.foldl_cons, List.map_cons, List.cons_removeAll]
    by_cases hgiven : f.name ∈ props.keys
    · obtain ⟨added, hkeys, hfold⟩ := ih props
      refine ⟨added, ?_, ?_⟩
      · rw [hkeys]
        simp [hgiven]
      · rw [if_pos (Members.has_eq_true.mpr hgiven), hfold]
    · -- The default that is added now is lacking no more in what follows.
      obtain ⟨added, hkeys, hfold⟩ := ih (props ++ [(f.name, f.default)])
      have hprops : Members.keys (props ++ [(f.name, f.default)]) = props.keys ++ [f.name] := List.map_append
      have hhas : ¬props.has f.name = true := fun h => hgiven (Members.has_eq_true.mp h)
      refine ⟨(f.name, f.default) :: added, ?_, ?_⟩
      · have helem : props.keys.contains f.name = false := by simpa using hgiven
        rw [if_pos helem, List.eraseDups_cons, ← removeAll_concat, ← hprops, ← hkeys]
        rfl
      · rw [if_neg hhas, hfold, List.append_assoc, List.singleton_append]

/-- What is added to a bag has the declared names that the bag lacks, each once. -/
theorem exists_added (s : Schema) (props : Members) :
    ∃ added : Members, added.keys = (s.fieldNames.removeAll props.keys).eraseDups ∧ s.fill props = props ++ added :=
  exists_foldl_added s.fields props

theorem get?_added {s : Schema} {props added : Members} (h : s.fill props = props ++ added) {name : String}
    (hname : name ∉ props.keys) : added.get? name = (s.field? name).map (·.default) := by
  have hfill := get?_fill s props name
  rw [h, Members.get?_append, Members.get?_eq_none hname, Option.none_or, Option.none_or] at hfill
  exact hfill

/-- A bag that has all declared names stays as it is. -/
theorem fill_of_keys {s : Schema} {props : Members} (h : ∀ name ∈ s.fieldNames, name ∈ props.keys) :
    s.fill props = props := by
  obtain ⟨added, hkeys, hfill⟩ := s.exists_added props
  have hnone : s.fieldNames.removeAll props.keys = [] :=
    List.filter_eq_nil_iff.mpr fun name hname => by simpa using h name hname
  rw [hnone, List.eraseDups_nil] at hkeys
  rw [hfill, List.map_eq_nil_iff.mp hkeys, List.append_nil]

theorem mem_keys_fill {s : Schema} (props : Members) {name : String} (h : name ∈ s.fieldNames) :
    name ∈ (s.fill props).keys := by
  obtain ⟨added, hkeys, hfill⟩ := s.exists_added props
  have hsplit : (s.fill props).keys = props.keys ++ added.keys := by
    rw [hfill]
    exact List.map_append
  rw [hsplit, List.mem_append, hkeys, List.mem_eraseDups]
  by_cases hgiven : name ∈ props.keys
  · exact .inl hgiven
  · exact .inr (List.mem_filter.mpr ⟨h, by simpa using hgiven⟩)

/-- The bag of a component: the given props, and behind them the declared names that they lack, in the order of the
schema and each once, with the default of the first field of the name. Filled once more it is the same. -/
theorem fill_eq_given_then_defaults (s : Schema) (props : Members) :
    (∃ added : Members, s.fill props = props ++ added ∧
      added.keys = (s.fieldNames.removeAll props.keys).eraseDups ∧
      ∀ name v, (name, v) ∈ added → ∃ f, s.field? name = some f ∧ v = f.default) ∧
    s.fill (s.fill props) = s.fill props := by
  constructor
  · obtain ⟨added, hkeys, hfill⟩ := s.exists_added props
    refine ⟨added, hfill, hkeys, fun name v hmem => ?_⟩
    have hname : name ∈ (s.fieldNames.removeAll props.keys).eraseDups := hkeys ▸ List.mem_map_of_mem hmem
    have hlacking : name ∉ props.keys := by
      simpa using (List.mem_filter.mp (List.mem_eraseDups.mp hname)).2
    have hnodup : added.keys.Nodup := by
      rw [hkeys]
      exact nodup_eraseDups _
    have hget := (Members.get?_eq_some_iff hnodup).mpr hmem
    rw [get?_added hfill hlacking] at hget
    obtain ⟨f, hf, hdefault⟩ := Option.map_eq_some_iff.mp hget
    exact ⟨f, hf, hdefault.symm⟩
  · exact fill_of_keys fun name hname => mem_keys_fill props hname

/-- A name that is declared again adds nothing, and a given value stays whatever it is. -/
example :
    fill ⟨"", "", none, none, [⟨"a", .int 1, none, none⟩, ⟨"b", .int 2, none, none⟩, ⟨"a", .int 3, none, none⟩], none⟩
      [("b", .null), ("c", .text "")] = [("b", .null), ("c", .text ""), ("a", .int 1)] := rfl

end Schema
end DesignKit
