import DesignKit.Proofs.Render
import DesignKit.Scale

/-! # Sizes that a scale does not have

A position on a scale may have no size: zero has no negative power, a negative factor no power with a
fraction, a power or a product may leave the range of doubles. Each of these ends in a fault of its own. -/

namespace DesignKit

/-- The faults of arithmetic. -/
def Fault.isArithmetic : Fault → Bool
  | .zeroDivision => true
  | .overflow => true
  | .complexPower => true
  | .roundedNaN => true
  | _ => false

namespace Number

theorem ofInt_eq_error {n : Int} {fault : Fault} : ofInt n = .error fault ↔ ofInt? n = none ∧ fault = .overflow := by
  unfold ofInt
  cases ofInt? n <;> simp [eq_comm]

theorem quotient_eq_error {num : Int} {den : Nat} {fault : Fault} :
    quotient num den = .error fault ↔ quotient? num den = none ∧ fault = .overflow := by
  unfold quotient
  cases quotient? num den <;> simp [eq_comm]

theorem floor_eq_error {x : Float} {fault : Fault} :
    floor x = .error fault ↔ Binary.ofFloat? x = none ∧ (if x.isNaN then .roundedNaN else .overflow) = fault := by
  unfold floor
  cases Binary.ofFloat? x with
  | some b => simp only [reduceCtorEq, false_and]
  | none => simp only [Except.error.injEq, true_and]

theorem isArithmetic_floor {x : Float} {fault : Fault} (h : floor x = .error fault) : fault.isArithmetic = true := by
  obtain ⟨-, rfl⟩ := floor_eq_error.mp h
  split <;> rfl

theorem isArithmetic_ofInt {n : Int} {fault : Fault} (h : ofInt n = .error fault) : fault.isArithmetic = true := by
  obtain ⟨-, rfl⟩ := ofInt_eq_error.mp h
  rfl

theorem isArithmetic_quotient {num : Int} {den : Nat} {fault : Fault} (h : quotient num den = .error fault) :
    fault.isArithmetic = true := by
  obtain ⟨-, rfl⟩ := quotient_eq_error.mp h
  rfl

/-- Rounding a double to places after the point. -/
theorem roundHalfUp_places {x : Float} {digits : Int} (h : 0 ≤ digits) :
    roundHalfUp (.float x) digits = (do
      let scale ← ofInt (tenTo digits.toNat)
      let whole ← floor (x * scale + 0.5)
      quotient whole (tenTo digits.toNat)) := by
  unfold roundHalfUp
  simp only [if_pos h, map_eq_pure_bind, bind_assoc, pure_bind]

/-- Rounding a double to places before the point. -/
theorem roundHalfUp_tens {x : Float} {digits : Int} (h : ¬0 ≤ digits) :
    roundHalfUp (.float x) digits = (do
      let scale := Float.pow 10.0 (Float.ofInt digits)
      let whole ← floor (x * scale + 0.5)
      let whole ← ofInt whole
      if scale == 0.0 then .error .zeroDivision else .ok (whole / scale)) := by
  unfold roundHalfUp
  rw [if_neg h]
  rfl

theorem isArithmetic_roundHalfUp {x : Float} {digits : Int} {fault : Fault}
    (h : roundHalfUp (.float x) digits = .error fault) : fault.isArithmetic = true := by
  by_cases hd : 0 ≤ digits
  · rw [roundHalfUp_places hd] at h
    obtain h | ⟨_, -, h⟩ := except_bind_eq_error.mp h
    · exact isArithmetic_ofInt h
    · obtain h | ⟨_, -, h⟩ := except_bind_eq_error.mp h
      · exact isArithmetic_floor h
      · exact isArithmetic_quotient h
  · rw [roundHalfUp_tens hd] at h
    obtain h | ⟨_, -, h⟩ := except_bind_eq_error.mp h
    · exact isArithmetic_floor h
    · obtain h | ⟨_, -, h⟩ := except_bind_eq_error.mp h
      · exact isArithmetic_ofInt h
      · split at h
        · cases h
          rfl
        · cases h

/-- The ways in which a double has no power, each with its fault. -/
inductive Unpowered (base exponent : Float) : Fault → Prop
  /-- Zero has no negative power. -/
  | zero (hzero : base == 0.0 && exponent < 0.0) : Unpowered base exponent .zeroDivision
  /-- The power lies beyond the range of doubles. -/
  | large (hzero : ¬(base == 0.0 && exponent < 0.0)) (hlarge : (Float.pow base.abs exponent).isInf) :
    Unpowered base exponent .overflow
  /-- A negative base has no power with a fraction. -/
  | root (hzero : ¬(base == 0.0 && exponent < 0.0)) (hlarge : ¬(Float.pow base.abs exponent).isInf)
    (hroot : base < 0.0 && exponent.floor != exponent) : Unpowered base exponent .complexPower

/-- Powers fail for finite numbers only. -/
theorem power_eq_error {base exponent : Float} {fault : Fault} :
    power base exponent = .error fault ↔
      (base.isFinite && exponent.isFinite) = true ∧ Unpowered base exponent fault := by
  unfold power
  constructor
  · intro h
    split at h
    case isFalse => cases h
    case isTrue hfinite =>
      refine ⟨hfinite, ?_⟩
      split at h
      case isTrue hzero =>
        cases h
        exact .zero hzero
      case isFalse hzero =>
        simp only at h
        split at h
        case isTrue hlarge =>
          cases h
          exact .large hzero hlarge
        case isFalse hlarge =>
          split at h
          case isTrue hroot =>
            cases h
            exact .root hzero hlarge hroot
          case isFalse => cases h
  · rintro ⟨hfinite, h⟩
    rw [if_pos hfinite]
    cases h with
    | zero hzero => rw [if_pos hzero]
    | large hzero hlarge => simp only [if_neg hzero, if_pos hlarge]
    | root hzero hlarge hroot => simp only [if_neg hzero, if_neg hlarge, if_pos hroot]

theorem Unpowered.isArithmetic {base exponent : Float} {fault : Fault} (h : Unpowered base exponent fault) :
    fault.isArithmetic = true := by
  cases h <;> rfl

end Number

namespace Scale
open Number

/-- The ways in which a scale has no size at a position, each with its fault. -/
inductive Unsized (s : Scale) (position : Float) (digits : Int) : Fault → Prop
  /-- The factor has no power of the position. -/
  | power {fault : Fault} (hfinite : (s.factor.isFinite && position.isFinite) = true)
    (h : Unpowered s.factor position fault) : Unsized s position digits fault
  /-- The product cannot be rounded. -/
  | rounding {power : Float} {fault : Fault} (hpower : Number.power s.factor position = .ok power)
    (h : roundHalfUp (.float (s.base * power)) digits = .error fault) : Unsized s position digits fault

theorem Unsized.isArithmetic {s : Scale} {position : Float} {digits : Int} {fault : Fault}
    (h : s.Unsized position digits fault) : fault.isArithmetic = true := by
  cases h with
  | power _ h => exact h.isArithmetic
  | rounding _ h => exact isArithmetic_roundHalfUp h

theorem sizeAt_eq_error {s : Scale} {position : Float} {digits : Int} {fault : Fault} :
    s.sizeAt position digits = .error fault ↔ s.Unsized position digits fault := by
  unfold sizeAt
  rw [except_bind_eq_error, power_eq_error]
  constructor
  · rintro (⟨hfinite, h⟩ | ⟨power, hpower, h⟩)
    · exact .power hfinite h
    · exact .rounding hpower h
  · rintro (⟨hfinite, h⟩ | ⟨hpower, h⟩)
    · exact .inl ⟨hfinite, h⟩
    · exact .inr ⟨_, hpower, h⟩

end Scale
end DesignKit
