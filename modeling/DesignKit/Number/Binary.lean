/-! # Doubles as exact numbers

A finite double is a whole number times a power of two. This file takes a double apart into that form,
puts the double nearest to a quotient together again, and on these two rests all arithmetic that has
to be exact: the floor, the test for a whole number, the conversion of integers of any size. -/

namespace DesignKit.Number

/-- A power of two. -/
def twoTo (n : Nat) : Nat := Nat.pow 2 n

/-- A power of ten. -/
def tenTo (n : Nat) : Nat := Nat.pow 10 n

/-- A finite double: `± mantissa * 2 ^ exponent`. -/
structure Binary where
  negative : Bool
  mantissa : Nat
  exponent : Int
deriving DecidableEq, Repr

/-- The parts of a finite double, `none` for an infinity or a NaN. -/
def Binary.ofFloat? (x : Float) : Option Binary :=
  let bits : Nat := x.toBits.toNat
  let negative : Bool := bits / twoTo 63 == 1
  let field : Nat := bits / twoTo 52 % twoTo 11
  let fraction : Nat := bits % twoTo 52
  if field == 2047 then none
  else if field == 0 then some ⟨negative, fraction, -1074⟩
  else some ⟨negative, fraction + twoTo 52, (field : Int) - 1075⟩

/-- The mantissa with its sign. -/
def Binary.signed (b : Binary) : Int :=
  if b.negative then -(b.mantissa : Int) else b.mantissa

/-- The number is whole. -/
def Binary.isWhole (b : Binary) : Bool :=
  0 ≤ b.exponent || b.mantissa % twoTo (-b.exponent).toNat == 0

/-- The greatest whole number that is not above. -/
def Binary.floor (b : Binary) : Int :=
  if 0 ≤ b.exponent then b.signed * twoTo b.exponent.toNat
  else Int.fdiv b.signed (twoTo (-b.exponent).toNat)

/-- The whole number nearest in the direction of zero. -/
def Binary.truncate (b : Binary) : Int :=
  if 0 ≤ b.exponent then b.signed * twoTo b.exponent.toNat
  else Int.tdiv b.signed (twoTo (-b.exponent).toNat)

/-- The integer that a double equals, if it equals one. -/
def whole? (x : Float) : Option Int :=
  match Binary.ofFloat? x with
  | some b => if b.isWhole then some b.floor else none
  | none => none

/-- `num / den` to the nearest whole number, a tie going to the even neighbour. -/
def roundQuotient (num den : Nat) : Nat :=
  let quotient := num / den
  let twice := 2 * (num % den)
  if twice > den || (twice == den && quotient % 2 == 1) then quotient + 1 else quotient

/-- The double nearest to `num / den`, a tie going to the even mantissa; infinity beyond the range. -/
def nearest (num den : Nat) : Float :=
  if num == 0 then 0.0 else
    let least : Int := max ((num.log2 : Int) - den.log2 - 53) (-1074)
    let scaled (exponent : Int) : Nat × Nat := (num * twoTo (-exponent).toNat, den * twoTo exponent.toNat)
    let exponent :=
      let (n, d) := scaled least
      if n / d < twoTo 53 then least else least + 1
    let (n, d) := scaled exponent
    let mantissa := roundQuotient n d
    if exponent > 971 then 1.0 / 0.0
    else if mantissa < twoTo 52 then Float.ofBits (UInt64.ofNat mantissa)
    else Float.ofBits (UInt64.ofNat ((exponent + 1075).toNat * twoTo 52 + (mantissa - twoTo 52)))

/-- The double nearest to an integer, `none` when it is beyond the range. -/
def ofInt? (n : Int) : Option Float :=
  let x := nearest n.natAbs 1
  if x.isInf then none else some (if n < 0 then -x else x)

/-- The double nearest to a quotient of integers, `none` when it is beyond the range. -/
def quotient? (num : Int) (den : Nat) : Option Float :=
  let x := nearest num.natAbs den
  if x.isInf then none else some (if num < 0 then -x else x)

/-- A double equals an integer. -/
def equalsInt (x : Float) (n : Int) : Bool :=
  whole? x == some n

end DesignKit.Number
