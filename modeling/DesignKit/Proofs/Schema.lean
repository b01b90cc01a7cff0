import DesignKit.Catalog
import DesignKit.Proofs.Checked
import DesignKit.Proofs.Members

/-! # Schemas from files

A schema is read member by member. That of a file has the name of the component and a label with at least one
character, whatever the file says about either. -/

namespace DesignKit

theorem Text.upper_ne_empty (c : Char) : Text.upper c ≠ "" := by
  unfold Text.upper
  split
  · rename_i found hfound
    have hlong : ∀ p ∈ Text.longUppers, p.2 ≠ "" := by decide
    exact hlong _ (Array.mem_of_find?_eq_some hfound)
  · split <;> simp [String.singleton_ne_empty]

theorem Text.upperFirst_ne_empty {s : String} (h : s ≠ "") : Text.upperFirst s ≠ "" := by
  unfold Text.upperFirst
  split
  · rename_i hnil
    exact absurd (String.toList_eq_nil_iff.mp hnil) h
  · simp [Text.upper_ne_empty]

namespace Schema

/-- A schema is read from an object exactly when each of its six members is. -/
theorem ofValue_object_eq_ok {m : Members} {s : Schema} :
    ofValue (.object m) = .ok s ↔
      Checked.optional m "name" "" Checked.text = .ok s.name ∧
      Checked.optional m "label" "" Checked.text = .ok s.label ∧
      Checked.optional m "category" none Checked.textOrNull = .ok s.category ∧
      Checked.optional m "description" none Checked.textOrNull = .ok s.description ∧
      Checked.optional m "fields" [] (Checked.list Field.ofValue) = .ok s.fields ∧
      Checked.optional m "children" none Slot.listOfValue = .ok s.children := by
  simp only [ofValue, Checked.record, Checked.seq_eq_ok, Checked.map_eq_ok]
  constructor
  · rintro ⟨_, children, ⟨_, fields, ⟨_, description, ⟨_, category, ⟨_, label, ⟨name, hname, rfl⟩, hlabel, rfl⟩,
      hcategory, rfl⟩, hdescription, rfl⟩, hfields, rfl⟩, hchildren, rfl⟩
    exact ⟨hname, hlabel, hcategory, hdescription, hfields, hchildren⟩
  · rintro ⟨hname, hlabel, hcategory, hdescription, hfields, hchildren⟩
    exact ⟨_, _, ⟨_, _, ⟨_, _, ⟨_, _, ⟨_, _, ⟨_, hname, rfl⟩, hlabel, rfl⟩, hcategory, rfl⟩, hdescription, rfl⟩,
      hfields, rfl⟩, hchildren, rfl⟩

/-! ### Files -/

theorem ofFile_eq_ok {name : String} {path : Path} {text : String} {s : Schema} (h : ofFile name path text = .ok s) :
    ∃ m, Json.read text = .ok (.object m) ∧ ofValue (.object (ofFile.completed name m)) = .ok s := by
  unfold ofFile at h
  split at h
  · cases h
  · rename_i m hread
    cases hs : (ofValue (.object (ofFile.completed name m))).toExcept kind with
    | ok s' =>
      rw [hs] at h
      cases h
      exact ⟨m, hread, Checked.toExcept_eq_ok.mp hs⟩
    | error r =>
      rw [hs] at h
      cases h
  · cases h

theorem completed_name (name : String) (m : Members) : (ofFile.completed name m).get? "name" = some (.text name) := by
  simp only [ofFile.completed]
  split <;> split <;> simp [Members.get?_set]

/-- The label of a file stays when it is true; in the stead of another there is the name, its first letter
capital. -/
theorem completed_label (name : String) (m : Members) :
    ∃ v, (ofFile.completed name m).get? "label" = some v ∧ (v.truthy = true ∨ v = .text (Text.upperFirst name)) := by
  have hfields (n : Members) :
      (if (n.get "fields").isNull then n.set "fields" (.list []) else n).get? "label" = n.get? "label" := by
    split
    · exact Members.get?_set_ne _ _ (by decide)
    · rfl
  suffices hlabel : ∃ v, (if ((m.set "name" (.text name)).get "label").truthy then m.set "name" (.text name)
      else (m.set "name" (.text name)).set "label" (.text (Text.upperFirst name))).get? "label" = some v ∧
        (v.truthy = true ∨ v = .text (Text.upperFirst name)) by
    obtain ⟨v, hv, hcase⟩ := hlabel
    exact ⟨v, (hfields _).trans hv, hcase⟩
  by_cases htrue : ((m.set "name" (.text name)).get "label").truthy = true
  · rw [if_pos htrue]
    cases hget : (m.set "name" (.text name)).get? "label" with
    | none => rw [Members.get, hget] at htrue; cases htrue
    | some v => exact ⟨v, rfl, .inl (by rwa [Members.get, hget] at htrue)⟩
  · rw [if_neg htrue]
    exact ⟨_, Members.get?_set_self _ _ _, .inr rfl⟩

theorem named_of_ofFile {name : String} {path : Path} {text : String} {s : Schema} (hname : name ≠ "")
    (h : ofFile name path text = .ok s) : s.name = name ∧ s.label ≠ "" := by
  obtain ⟨m, -, hs⟩ := ofFile_eq_ok h
  obtain ⟨hn, hl, -⟩ := ofValue_object_eq_ok.mp hs
  constructor
  · rcases Checked.optional_eq_ok.mp hn with ⟨hnone, -⟩ | ⟨v, hv, htext⟩
    · rw [completed_name] at hnone
      cases hnone
    · rw [completed_name] at hv
      cases hv
      exact (Checked.ok.inj htext).symm
  · obtain ⟨v, hv, hcase⟩ := completed_label name m
    rcases Checked.optional_eq_ok.mp hl with ⟨hnone, -⟩ | ⟨w, hw, htext⟩
    · rw [hv] at hnone
      cases hnone
    · obtain rfl : v = w := Option.some.inj (hv.symm.trans hw)
      rw [Checked.text_eq_ok] at htext
      rcases hcase with htrue | hupper
      · intro hempty
        rw [htext, hempty] at htrue
        cases htrue
      · rw [htext, Value.text.injEq] at hupper
        rw [hupper]
        exact Text.upperFirst_ne_empty hname

end Schema
end DesignKit
