import DesignKit.Number.Binary
import DesignKit.Text.Blank
import DesignKit.Text.DecimalDigit

/-! # Numbers written as text

A number may be surrounded by white space and carry a sign. Single underscores may stand between digits,
and digits of any script count. A decimal has a whole part, a fraction or both, and perhaps an exponent;
`inf`, `infinity` and `nan` are read in any case. -/

namespace DesignKit.Number
open DesignKit.Text

/-- The double nearest to `digits * 10 ^ exponent`. Exponents that lead out of the range of doubles are
answered without computing the power. -/
def ofDecimal (digits : Nat) (exponent : Int) : Float :=
  let size : Int := (natDigits digits) + exponent
  if digits == 0 || size < -330 then 0.0
  else if size > 310 then 1.0 / 0.0
  else nearest (digits * tenTo exponent.toNat) (tenTo (-exponent).toNat)
where
  /-- How many decimal digits a number has, up to one. -/
  natDigits (n : Nat) : Nat := n.log2 * 1233 / 4096 + 1

/-- The number written by a row of digits. -/
def ofDigits (digits : List Nat) : Nat :=
  digits.foldl (fun n d => n * 10 + d) 0

/-- The digits at the front of a text, and what follows them. -/
def leadingDigits : List Char → List Nat × List Char
  | [] => ([], [])
  | c :: rest =>
    match asciiDigit? c with
    | some d => let (ds, after) := leadingDigits rest; (d :: ds, after)
    | none => ([], c :: rest)

/-- A sign at the front of a text: whether it is a minus, and what follows. -/
def leadingSign : List Char → Bool × List Char
  | '-' :: rest => (true, rest)
  | '+' :: rest => (false, rest)
  | cs => (false, cs)

/-- The exponent at the end of a decimal: nothing, or a mark, perhaps a sign, and digits to the end. -/
def exponent? : List Char → Option Int
  | [] => some 0
  | mark :: rest =>
    if mark == 'e' || mark == 'E' then
      let (negative, rest) := leadingSign rest
      match leadingDigits rest with
      | ([], _) => none
      | (ds, []) => some (if negative then -(ofDigits ds : Int) else ofDigits ds)
      | _ => none
    else none

/-- A decimal without sign and white space. -/
def unsignedFloat? (cs : List Char) : Option Float :=
  let word := String.ofList (cs.map Char.toLower)
  if word == "inf" || word == "infinity" then some (1.0 / 0.0)
  else if word == "nan" then some (0.0 / 0.0)
  else
    let (whole, rest) := leadingDigits cs
    let (fraction, rest) :=
      match rest with
      | '.' :: rest => leadingDigits rest
      | rest => ([], rest)
    if whole.isEmpty && fraction.isEmpty then none
    else (exponent? rest).map fun e => ofDecimal (ofDigits (whole ++ fraction)) (e - fraction.length)

/-- A decimal in ASCII with an optional sign. -/
def signedFloat? (cs : List Char) : Option Float :=
  let (negative, rest) := leadingSign cs
  (unsignedFloat? rest).map fun x => if negative then -x else x

/-- A text with the digits of every script written in ASCII. -/
def asciiDigits (cs : List Char) : List Char :=
  cs.map fun c =>
    match digitValue? c with
    | some d => Char.ofNat ('0'.toNat + d)
    | none => c

/-- A text without its underscores, if each of them stands between two digits. -/
def joinDigitGroups? : List Char → Option (List Char)
  | [] => some []
  | [c] => if c == '_' then none else some [c]
  | c :: next :: rest =>
    if c == '_' then none
    else if next == '_' then
      match rest with
      | [] => none
      | after :: rest' =>
        if (asciiDigit? c).isSome && (asciiDigit? after).isSome then (joinDigitGroups? (after :: rest')).map (c :: ·)
        else none
    else (joinDigitGroups? (next :: rest)).map (c :: ·)
termination_by cs => cs.length

/-- What is left of a written number once white space and digit grouping are gone. -/
def bareNumber? (s : String) : Option (List Char) :=
  joinDigitGroups? (asciiDigits (trimBoth isSpace s.toList))

/-- The double that a text writes. -/
def readFloat? (s : String) : Option Float :=
  (bareNumber? s).bind signedFloat?

/-- The integer that a text writes: a sign and digits. -/
def readInt? (s : String) : Option Int :=
  (bareNumber? s).bind fun cs =>
    let (negative, rest) := leadingSign cs
    match leadingDigits rest with
    | ([], _) => none
    | (ds, []) => some (if negative then -(ofDigits ds : Int) else ofDigits ds)
    | _ => none

end DesignKit.Number
