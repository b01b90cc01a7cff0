import DesignKit.Json.Reader
import DesignKit.Proofs.Members
import DesignKit.Proofs.Render

/-! # Values without repeated keys

The values of documents have each key once in an object, at every depth. This is so of whatever is read from a
text: a key that is written again replaces the value it had. -/

namespace DesignKit

/-- No object in a value has a key twice. -/
inductive Value.DistinctKeys : Value → Prop
  | null : DistinctKeys .null
  | bool (b : Bool) : DistinctKeys (.bool b)
  | int (n : Int) : DistinctKeys (.int n)
  | float (x : Float) : DistinctKeys (.float x)
  | text (s : String) : DistinctKeys (.text s)
  | list {items : List Value} (h : ∀ v ∈ items, DistinctKeys v) : DistinctKeys (.list items)
  | object {m : Members} (hkeys : m.keys.Nodup) (h : ∀ e ∈ m, DistinctKeys e.2) : DistinctKeys (.object m)

namespace Value.DistinctKeys
variable {m : Members}

theorem object_iff : DistinctKeys (.object m) ↔ m.keys.Nodup ∧ ∀ e ∈ m, DistinctKeys e.2 := by
  constructor
  · intro h
    cases h with
    | object hkeys h => exact ⟨hkeys, h⟩
  · rintro ⟨hkeys, h⟩
    exact .object hkeys h

theorem list_iff {items : List Value} : DistinctKeys (.list items) ↔ ∀ v ∈ items, DistinctKeys v := by
  constructor
  · intro h
    cases h with
    | list h => exact h
  · exact .list

theorem keys (h : DistinctKeys (.object m)) : m.keys.Nodup :=
  (object_iff.mp h).1

theorem member (h : DistinctKeys (.object m)) {e : String × Value} (he : e ∈ m) : DistinctKeys e.2 :=
  (object_iff.mp h).2 e he

theorem get (h : DistinctKeys (.object m)) (key : String) : DistinctKeys (m.get key) := by
  unfold Members.get
  cases hv : m.get? key with
  | none => exact .null
  | some v => exact h.member (Members.mem_of_get? hv)

theorem ofEntries {entries : List (String × Value)} (h : ∀ e ∈ entries, DistinctKeys e.2) :
    DistinctKeys (.object (Members.ofEntries entries)) := by
  refine .object (Members.nodup_keys_ofEntries entries) fun e he => ?_
  rcases Members.mem_update he with hnil | ⟨e', he', heq⟩
  · cases hnil
  · exact heq ▸ h e' he'

end Value.DistinctKeys

namespace Json
open Value

theorem distinctKeys_unsignedNumber? {negative : Bool} {cs : List Char} {found : Value × List Char}
    (h : unsignedNumber? negative cs = some found) : found.1.DistinctKeys := by
  unfold unsignedNumber? at h
  simp only at h
  -- The whole part may be a single zero or not; either way the number is read from what follows it.
  split at h
  all_goals
    split at h
    · cases h
    · split at h
      · cases h
        exact .int _
      · cases h
        exact .float _

theorem distinctKeys_words : ∀ w ∈ words, w.2.DistinctKeys := by
  intro w hw
  simp only [words, List.mem_cons, List.not_mem_nil, or_false] at hw
  rcases hw with rfl | rfl | rfl | rfl | rfl | rfl
  · exact .null
  · exact .bool _
  · exact .bool _
  · exact .float _
  · exact .float _
  · exact .float _

theorem distinctKeys_atom {cs : List Char} {found : Value × List Char} (h : atom cs = .ok found) :
    found.1.DistinctKeys := by
  unfold atom at h
  split at h
  case h_1 hw =>
    cases h
    obtain ⟨w, hmem, hfound⟩ := List.exists_of_findSome?_eq_some hw
    obtain ⟨rest, -, rfl⟩ := Option.map_eq_some_iff.mp hfound
    exact distinctKeys_words w hmem
  case h_2 =>
    simp only at h
    split at h
    case h_1 hn =>
      cases h
      split at hn
      · exact distinctKeys_unsignedNumber? hn
      · exact distinctKeys_unsignedNumber? hn
    case h_2 => cases h

/-- The three readers call each other with one step less, so one induction serves them all. -/
theorem distinctKeys_readers (fuel : Nat) :
    (∀ cs found, value fuel cs = .ok found → found.1.DistinctKeys) ∧
    (∀ cs found, items fuel cs = .ok found → ∀ v ∈ found.1, v.DistinctKeys) ∧
    (∀ cs found, members fuel cs = .ok found → ∀ e ∈ found.1, e.2.DistinctKeys) := by
  induction fuel with
  | zero =>
    refine ⟨fun cs found h => ?_, fun cs found h => ?_, fun cs found h => ?_⟩
    · cases h
    · cases h
    · cases h
  | succ fuel ih =>
    obtain ⟨hvalue, hitems, hmembers⟩ := ih
    refine ⟨fun cs found h => ?_, fun cs found h => ?_, fun cs found h => ?_⟩
    · unfold value at h
      split at h
      · obtain ⟨read, -, h⟩ := except_bind_eq_ok.mp h
        cases h
        exact .text _
      · split at h
        · cases h
          exact .object List.nodup_nil nofun
        · obtain ⟨read, hread, h⟩ := except_bind_eq_ok.mp h
          cases h
          exact .ofEntries (hmembers _ _ hread)
      · split at h
        · cases h
          exact .list nofun
        · obtain ⟨read, hread, h⟩ := except_bind_eq_ok.mp h
          cases h
          exact .list (hitems _ _ hread)
      · exact distinctKeys_atom h
    · unfold items at h
      obtain ⟨first, hfirst, h⟩ := except_bind_eq_ok.mp h
      have hv := hvalue _ _ hfirst
      simp only at h
      split at h
      · cases h
        simpa using hv
      · obtain ⟨more, hmore, h⟩ := except_bind_eq_ok.mp h
        cases h
        exact List.forall_mem_cons.mpr ⟨hv, hitems _ _ hmore⟩
      · cases h
    · unfold members at h
      split at h
      · obtain ⟨key, -, h⟩ := except_bind_eq_ok.mp h
        simp only at h
        split at h
        · obtain ⟨first, hfirst, h⟩ := except_bind_eq_ok.mp h
          have hv := hvalue _ _ hfirst
          split at h
          · cases h
            simpa using hv
          · obtain ⟨more, hmore, h⟩ := except_bind_eq_ok.mp h
            cases h
            exact List.forall_mem_cons.mpr ⟨hv, hmembers _ _ hmore⟩
          · cases h
        · cases h
      · cases h

/-- A value that was read has each key once in an object. -/
theorem distinctKeys_of_read {text : String} {v : Value} (h : read text = .ok v) : v.DistinctKeys := by
  unfold read at h
  split at h
  case h_2 => cases h
  case h_1 w hdocument =>
    cases h
    unfold document at hdocument
    split at hdocument
    · cases hdocument
    · obtain ⟨found, hfound, h⟩ := except_bind_eq_ok.mp hdocument
      simp only at h
      split at h
      · cases h
        exact (distinctKeys_readers _).1 _ _ hfound
      · cases h

end Json
end DesignKit
