import DesignKit.Number.Shortest

/-! # The text of a number

Integers are written in decimal digits. A double is written with its shortest digits: positionally, with
at least one place after the point, while its leading digit stands for `10 ^ -4` to `10 ^ 15`, and with an
exponent of at least two digits and a sign otherwise. -/

namespace DesignKit.Number

/-- The decimal digits of a natural number. -/
def natText (n : Nat) : List Char :=
  Nat.toDigits 10 n

/-- An integer in decimal. -/
def intText (n : Int) : String :=
  String.ofList (if n < 0 then '-' :: natText n.natAbs else natText n.natAbs)

/-- How doubles are written: where positional notation begins and ends, and the texts of the values that
have no digits. -/
structure FloatStyle where
  least : Int
  most : Int
  nan : String
  infinity : String

/-- The style in which values are printed. -/
def FloatStyle.plain : FloatStyle := ⟨-4, 15, "nan", "inf"⟩

/-- The style of JSON documents, which name the values without digits in words of their own. -/
def FloatStyle.json : FloatStyle := ⟨-4, 15, "NaN", "Infinity"⟩

/-- Digits with a point after the leading `whole` ones, padded with zeros on either side of it. -/
def positional (digits : List Char) (whole : Int) : List Char :=
  if whole ≤ 0 then '0' :: '.' :: List.replicate (-whole).toNat '0' ++ digits
  else
    let n := whole.toNat
    if digits.length ≤ n then digits ++ List.replicate (n - digits.length) '0' ++ ['.', '0']
    else digits.take n ++ '.' :: digits.drop n

/-- Digits with a point after the first one, and the exponent of that digit. -/
def scientific (digits : List Char) (exponent : Int) : List Char :=
  let power := natText exponent.natAbs
  let mantissa :=
    match digits with
    | first :: second :: rest => first :: '.' :: second :: rest
    | short => short
  mantissa ++ 'e' :: (if exponent < 0 then '-' else '+') :: List.replicate (2 - power.length) '0' ++ power

/-- Digits without the zeros at their end, which carry no information. -/
def significant (digits : List Char) : List Char :=
  (digits.reverse.dropWhile (· == '0')).reverse

/-- The text of a positive double. -/
def FloatStyle.positive (style : FloatStyle) (b : Binary) : List Char :=
  let decimal := shortest b.mantissa b.exponent
  let digits := natText decimal.digits
  let leading := (digits.length : Int) + decimal.exponent - 1
  if style.least ≤ leading && leading ≤ style.most then positional (significant digits) (leading + 1)
  else scientific (significant digits) leading

/-- The text of a double. -/
def FloatStyle.text (style : FloatStyle) (x : Float) : String :=
  match Binary.ofFloat? x with
  | some b =>
    let unsigned := if b.mantissa == 0 then ['0', '.', '0'] else style.positive b
    String.ofList (if b.negative then '-' :: unsigned else unsigned)
  | none =>
    if x.isNaN then style.nan else if x < 0 then "-" ++ style.infinity else style.infinity

end DesignKit.Number
