import DesignKit.Number.Binary

/-! # The shortest decimal that reads back

A double stands for every real number that rounds to it. Of the decimals in that interval the one with
the fewest digits is the double's text; of several such the one nearest to the double.

The search goes down the powers of ten. A multiple of `10 ^ k` in the interval exists exactly when one of
the double's two neighbours on that grid lies in it, and the first grid with such a neighbour has the
fewest digits. -/

namespace DesignKit.Number

/-- A positive decimal: `digits * 10 ^ exponent`. -/
structure Decimal where
  digits : Nat
  exponent : Int
deriving DecidableEq, Repr

/-- The reals that round to a double, times a common denominator: an open interval about `value`, with
its ends added when `closed`. -/
structure Interval where
  low : Nat
  value : Nat
  high : Nat
  unit : Nat
  closed : Bool

/-- The reals that round to `mantissa * 2 ^ exponent`. Below a power of two the neighbours are twice as
dense, and the ends round to the double itself when its mantissa is even. -/
def Interval.about (mantissa : Nat) (exponent : Int) : Interval :=
  let up := twoTo exponent.toNat
  let below := if mantissa == twoTo 52 && exponent != -1074 then 1 else 2
  { low := (4 * mantissa - below) * up
    value := 4 * mantissa * up
    high := (4 * mantissa + 2) * up
    unit := 4 * twoTo (-exponent).toNat
    closed := mantissa % 2 == 0 }

/-- `n / d`, in the interval's own unit, lies in the interval. -/
def Interval.holds (i : Interval) (n d : Nat) : Bool :=
  if i.closed then i.low * d ≤ n && n ≤ i.high * d else i.low * d < n && n < i.high * d

/-- The multiple of `10 ^ k` that lies in the interval and is nearest to its value, if there is one. -/
def Interval.onGrid? (i : Interval) (k : Int) : Option Nat :=
  let up := tenTo k.toNat
  let down := tenTo (-k).toNat
  let below := i.value * down / (i.unit * up)
  let holds (n : Nat) : Bool := i.holds (n * i.unit * up) down
  let rest := 2 * (i.value * down % (i.unit * up))
  let nearest := if rest > i.unit * up || (rest == i.unit * up && below % 2 == 1) then below + 1 else below
  if holds nearest && nearest != 0 then some nearest
  else if holds below && below != 0 then some below
  else if holds (below + 1) then some (below + 1)
  else none

/-- The first grid, from `10 ^ k` downwards, with a decimal in the interval. -/
def Interval.search (i : Interval) : Nat → Int → Decimal
  | 0, k => ⟨0, k⟩
  | fuel + 1, k =>
    match i.onGrid? k with
    | some digits => ⟨digits, k⟩
    | none => i.search fuel (k - 1)

/-- The shortest decimal that reads back as a positive double. Forty grids suffice: the first lies above
the double, and the twentieth below it is finer than the interval. -/
def shortest (mantissa : Nat) (exponent : Int) : Decimal :=
  let top := ((mantissa.log2 : Int) + exponent + 1) * 1233 / 4096 + 1
  (Interval.about mantissa exponent).search 40 top

end DesignKit.Number
