import Mathlib.Data.List.Forall2
import DesignKit.Checked.Rejection

/-! # Laws of checked readings

A reading that is put together from several succeeds exactly when each of them does. -/

namespace DesignKit.Checked
variable {α β : Type}

theorem map_eq_ok {f : α → β} {x : Checked α} {b : β} : f <$> x = .ok b ↔ ∃ a, x = .ok a ∧ f a = b := by
  cases x with
  | ok a =>
    constructor
    · exact fun h => ⟨a, rfl, Checked.ok.inj h⟩
    · rintro ⟨_, ⟨⟩, rfl⟩
      rfl
  | invalid ps =>
    constructor
    · intro h
      cases h
    · rintro ⟨_, h, -⟩
      cases h

theorem seq_eq_ok {f : Checked (α → β)} {x : Checked α} {b : β} :
    f <*> x = .ok b ↔ ∃ g a, f = .ok g ∧ x = .ok a ∧ g a = b := by
  cases f with
  | invalid ps =>
    constructor
    · intro h
      cases x <;> cases h
    · rintro ⟨_, _, h, -⟩
      cases h
  | ok g =>
    cases x with
    | ok a =>
      constructor
      · exact fun h => ⟨g, a, rfl, rfl, Checked.ok.inj h⟩
      · rintro ⟨_, _, ⟨⟩, ⟨⟩, rfl⟩
        rfl
    | invalid ps =>
      constructor
      · intro h
        cases h
      · rintro ⟨_, _, -, h, -⟩
        cases h

theorem within_eq_ok {step : String} {x : Checked α} {a : α} : x.within step = .ok a ↔ x = .ok a := by
  cases x <;> simp [within]

/-- A member that may be left out is read where it is there, and is the default where it is not. -/
theorem optional_eq_ok {m : Members} {key : String} {default : α} {read : Value → Checked α} {a : α} :
    optional m key default read = .ok a ↔
      (m.get? key = none ∧ default = a) ∨ ∃ v, m.get? key = some v ∧ read v = .ok a := by
  unfold optional
  cases m.get? key with
  | none => simp
  | some v => simp [within_eq_ok]

/-- A member that must be there is read. -/
theorem required_eq_ok {m : Members} {key : String} {read : Value → Checked α} {a : α} :
    required m key read = .ok a ↔ ∃ v, m.get? key = some v ∧ read v = .ok a := by
  unfold required
  cases m.get? key with
  | none => simp [fail, within]
  | some v => simp [within_eq_ok]

theorem text_eq_ok {v : Value} {s : String} : text v = .ok s ↔ v = .text s := by
  cases v <;> simp [text, fail]

theorem toExcept_eq_ok {kind : String} {x : Checked α} {a : α} : x.toExcept kind = .ok a ↔ x = .ok a := by
  cases x <;> simp [toExcept]

/-! ### Members and items -/

section
variable {read : Value → Checked α} {declares : Value → α → Prop} {default : α}

/-- What a member says that may be left out. -/
inductive Stated {ν : Type} (declares : ν → α → Prop) (default : α) : Option ν → α → Prop
  | absent : Stated declares default none default
  | given {v : ν} {a : α} (h : declares v a) : Stated declares default (some v) a

theorem optional_eq_ok_iff_stated (hread : ∀ {v a}, read v = .ok a ↔ declares v a) {m : Members} {key : String} {a : α} :
    optional m key default read = .ok a ↔ Stated declares default (m.get? key) a := by
  rw [optional_eq_ok]
  cases m.get? key with
  | none =>
    constructor
    · rintro (⟨-, rfl⟩ | ⟨_, h, -⟩)
      · exact .absent
      · cases h
    · rintro ⟨⟩
      exact .inl ⟨rfl, rfl⟩
  | some v =>
    constructor
    · rintro (⟨h, -⟩ | ⟨_, ⟨⟩, h⟩)
      · cases h
      · exact .given (hread.mp h)
    · rintro (_ | h)
      exact .inr ⟨v, rfl, hread.mpr h⟩

theorem object_eq_ok {v : Value} {m : Members} : object v = .ok m ↔ v = .object m := by
  cases v <;> simp [object, fail]

theorem record_eq_ok {kind : String} {read : Members → Checked α} {v : Value} {a : α} :
    record kind read v = .ok a ↔ ∃ m, v = .object m ∧ read m = .ok a := by
  cases v <;> simp [record, fail]

theorem items_go_eq_ok (index : Nat) {vs : List Value} {as : List α} :
    items.go read index vs = .ok as ↔ List.Forall₂ (fun v a => read v = .ok a) vs as := by
  induction vs generalizing index as with
  | nil =>
    rw [List.forall₂_nil_left_iff]
    exact ⟨fun h => (Checked.ok.inj h).symm, fun h => congrArg Checked.ok h.symm⟩
  | cons v rest ih =>
    rw [List.forall₂_cons_left_iff]
    simp only [items.go, seq_eq_ok, map_eq_ok, within_eq_ok, ih]
    constructor
    · rintro ⟨_, more, ⟨a, ha, rfl⟩, hmore, rfl⟩
      exact ⟨a, more, ha, hmore, rfl⟩
    · rintro ⟨a, more, ha, hmore, rfl⟩
      exact ⟨_, more, ⟨a, ha, rfl⟩, hmore, rfl⟩

/-- A list is read where all of its items are. -/
theorem list_eq_ok (hread : ∀ {v a}, read v = .ok a ↔ declares v a) {v : Value} {as : List α} :
    list read v = .ok as ↔ ∃ vs, v = .list vs ∧ List.Forall₂ declares vs as := by
  have hdeclares : (fun v a => read v = .ok a) = declares := funext fun v => funext fun a => propext hread
  cases v with
  | list vs =>
    rw [list, items, items_go_eq_ok 0, hdeclares]
    simp
  | _ => simp [list, fail]

end

end DesignKit.Checked
