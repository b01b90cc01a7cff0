/-! # Escaping for markup

The five characters that have a meaning in markup are written as character references, so that an
escaped text can neither open a tag nor end an attribute value. -/

namespace DesignKit.Text

/-- The written form of one character of text: a reference for the five special ones. -/
def escapeChar (c : Char) : List Char :=
  match c with
  | '&' => ['&', 'a', 'm', 'p', ';']
  | '<' => ['&', 'l', 't', ';']
  | '>' => ['&', 'g', 't', ';']
  | '"' => ['&', '#', '3', '4', ';']
  | '\x27' => ['&', '#', '3', '9', ';']
  | c => [c]

/-- The written form of a text: that of each of its characters. -/
def escapeChars (cs : List Char) : List Char :=
  cs.flatMap escapeChar

/-- A text as it stands between tags or in a quoted attribute value. -/
def escape (s : String) : String :=
  String.ofList (escapeChars s.toList)

end DesignKit.Text
