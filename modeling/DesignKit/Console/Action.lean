import DesignKit.Text.Blank

/-! # Actions in styled texts

A style whose name begins with an at sign is an action, and behind an equals sign it may take values: a name, a
name with values in brackets, or values alone. A value is a number, a quoted text, one of three words, values in
brackets or entries in braces. -/

namespace DesignKit.Console.Action

/-- A character of a name: a letter, a digit, an underscore or a full stop. -/
def isNameChar (c : Char) : Bool :=
  c.isAlphanum || c == '_' || c == '.' || (0x80 ≤ c.toNat && !Text.isBlank c)

/-- What follows a quoted text, from behind its opening quote on. A backslash takes the next character along. -/
def afterQuote? (quote : Char) : List Char → Option (List Char)
  | [] => none
  | '\\' :: _ :: rest => afterQuote? quote rest
  | c :: rest => if c == quote then some rest else if c == '\n' then none else afterQuote? quote rest

/-- The digits of a number: single underscores may stand between them. -/
def areDigits (cs : List Char) : Bool :=
  (cs.splitOn '_').all fun group => !group.isEmpty && group.all Char.isDigit

/-- A number without a sign: an integer that has no zeros before it, or a decimal with digits on one side of its
point at least. -/
def isNumber (cs : List Char) : Bool :=
  match cs.splitOn '.' with
  | [whole] => areDigits whole && (whole.head? != some '0' || whole.all fun c => c == '0' || c == '_')
  | [whole, []] => areDigits whole
  | [[], fraction] => areDigits fraction
  | [whole, fraction] => areDigits whole && areDigits fraction
  | _ => false

/-- The words that are values. -/
def constants : List (List Char) :=
  ["None".toList, "True".toList, "False".toList]

/-- What follows a word at the front of a text, if the word is of some kind. -/
def afterWord? (kind : List Char → Bool) (cs : List Char) : Option (List Char) :=
  if kind (cs.takeWhile isNameChar) then some (cs.dropWhile isNameChar) else none

/-- A text without the blanks at its front. -/
def skip (cs : List Char) : List Char :=
  cs.dropWhile Text.isBlank

mutual

/-- What follows a value at the front of a text, and the blanks behind it. -/
def afterValue? : Nat → List Char → Option (List Char)
  | 0, _ => none
  | fuel + 1, cs =>
    skip <$> match cs with
      | '(' :: rest => afterValues? fuel ')' false rest
      | '{' :: rest => afterValues? fuel '}' false rest
      | '\'' :: rest => afterQuote? '\'' rest
      | '"' :: rest => afterQuote? '"' rest
      | '-' :: rest => afterWord? isNumber (skip rest)
      | '+' :: rest => afterWord? isNumber (skip rest)
      | _ => afterWord? (fun word => isNumber word || constants.contains word) cs

/-- What follows values between commas, behind a value or not, and their closing bracket. An entry in braces may
have a colon between its key and its value. -/
def afterValues? : Nat → Char → Bool → List Char → Option (List Char)
  | 0, _, _, _ => none
  | fuel + 1, closing, behindValue, cs =>
    match skip cs with
    | [] => none
    | c :: rest =>
      if c == closing then some rest
      else if behindValue then
        if c == ',' then
          match skip rest with
          | ',' :: _ => none
          | rest => afterValues? fuel closing false rest
        else if c == ':' && closing == '}' then
          match afterValue? fuel (skip rest) with
          | some rest => afterValues? fuel closing true rest
          | none => none
        else none
      else
        match afterValue? fuel (c :: rest) with
        | some rest => afterValues? fuel closing true rest
        | none => none

end

/-- A text writes one value, or values between commas. -/
def areValues (cs : List Char) : Bool :=
  let closed := cs ++ [')']
  !cs.isEmpty && afterValues? (2 * closed.length + 2) ')' false closed == some []

/-- A text writes what an action takes. -/
def isReadable (cs : List Char) : Bool :=
  let cs := Text.trimBoth Text.isBlank cs
  match cs.dropWhile isNameChar with
  | [] => true
  | '(' :: rest =>
    if cs.getLast? == some ')' && !rest.contains '\n' then areValues ('(' :: rest) else areValues cs
  | _ => areValues cs

end DesignKit.Console.Action
