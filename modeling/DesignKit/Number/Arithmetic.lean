import DesignKit.Fault
import DesignKit.Number.Reading

/-! # Arithmetic with faults

The operations on numbers that can fail: rounding a double to a whole number, powers, division of an amount
by a whole number, and rounding to decimal places with halves going up. -/

namespace DesignKit.Number

/-- The greatest whole number not above a double. -/
def floor (x : Float) : Except Fault Int :=
  match Binary.ofFloat? x with
  | some b => .ok b.floor
  | none => .error (if x.isNaN then .roundedNaN else .overflow)

/-- The whole number nearest to a double in the direction of zero. -/
def truncate (x : Float) : Except Fault Int :=
  match Binary.ofFloat? x with
  | some b => .ok b.truncate
  | none => .error (if x.isNaN then .roundedNaN else .overflow)

/-- The double nearest to an integer. -/
def ofInt (n : Int) : Except Fault Float :=
  match ofInt? n with
  | some x => .ok x
  | none => .error .overflow

/-- The double nearest to a quotient of integers. -/
def quotient (num : Int) (den : Nat) : Except Fault Float :=
  match quotient? num den with
  | some x => .ok x
  | none => .error .overflow

/-- A power of doubles. Zero has no negative power, a negative base no power with a fraction, and a power of
finite numbers must be finite. -/
def power (base exponent : Float) : Except Fault Float :=
  if base.isFinite && exponent.isFinite then
    if base == 0.0 && exponent < 0.0 then .error .zeroDivision
    else
      let x := Float.pow base.abs exponent
      if x.isInf then .error .overflow
      else if base < 0.0 && exponent.floor != exponent then .error .complexPower
      else .ok (Float.pow base exponent)
  else .ok (Float.pow base exponent)

/-- What a double is above the greatest whole number that is not above it, to the nearest double. -/
def fractionPart (x : Float) : Float :=
  match Binary.ofFloat? x with
  | some b =>
    let unit := twoTo (-b.exponent).toNat
    nearest (Int.fmod b.signed unit).toNat unit
  | none => 0.0 / 0.0

/-- An amount divided by a whole number: integers exactly, doubles as doubles. -/
def per (v : Value) (n : Nat) : Except Fault Float :=
  match v with
  | .float x => .ok (x / n.toFloat)
  | v =>
    match v.int? with
    | some k => quotient k n
    | none => .error .notNumber

/-- Rounding to a number of decimal places, half a unit going up: the floor of the scaled number plus a
half, scaled back. With a negative number of places the scale is itself a double. -/
def roundHalfUp (v : Value) (digits : Int) : Except Fault Float := do
  if 0 ≤ digits then
    let scale : Nat := tenTo digits.toNat
    let scaled ← match v with
      | .float x => (x * ·) <$> ofInt scale
      | v =>
        match v.int? with
        | some n => ofInt (n * scale)
        | none => throw .notNumber
    quotient (← floor (scaled + 0.5)) scale
  else
    let scale := Float.pow 10.0 (Float.ofInt digits)
    let x ← match v with
      | .float x => pure x
      | v =>
        match v.int? with
        | some n => ofInt n
        | none => throw .notNumber
    let whole ← ofInt (← floor (x * scale + 0.5))
    if scale == 0.0 then throw .zeroDivision
    return whole / scale

end DesignKit.Number
