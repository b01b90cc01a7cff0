/-! # Line breaks

A line of a file may end in a line feed, in a carriage return or in both. Read as a text, all of them are one
line feed. -/

namespace DesignKit.Text

/-- The characters of a file with one line feed for every line break. -/
def unifyBreaks : List Char → List Char
  | '\r' :: '\n' :: rest => '\n' :: unifyBreaks rest
  | '\r' :: rest => '\n' :: unifyBreaks rest
  | c :: rest => c :: unifyBreaks rest
  | [] => []

/-- A character that ends a line: a line feed and the controls next to it, three information separators, and the
line breaks and separators of Unicode. -/
def endsLine (c : Char) : Bool :=
  let n := c.toNat
  (0x0a ≤ n && n ≤ 0x0d) || (0x1c ≤ n && n ≤ 0x1e) || n == 0x85 || n == 0x2028 || n == 0x2029

end DesignKit.Text
