import DesignKit.Value
import DesignKit.Number.Reading
import DesignKit.Number.Text

/-! # Reading JSON

A reader for JSON documents that answers a value or the place where the document goes wrong. Integers have
any size, other numbers are doubles, and the three words `NaN`, `Infinity` and `-Infinity` are numbers too.

Texts are made of characters, and half of a surrogate pair is none. One that an escape writes alone is read as
U+FFFD, so keys that differ in such halves only are one key. No limit is set here to the digits of an integer and to
how deeply values are nested.

Every reading function takes the text that is left and returns what it leaves. A failure keeps the text
from the faulty place on, so that its position is found by counting what comes before. -/

namespace DesignKit.Json
open Number Text

/-- What is wrong at a place of a document. -/
inductive Problem where
  | value
  | memberName
  | colon
  | comma
  | extraData
  | unterminatedText
  | control
  | escape
  | unicodeEscape
  | byteOrderMark
deriving DecidableEq, Repr

def Problem.message : Problem → String
  | value => "Expecting value"
  | memberName => "Expecting property name enclosed in double quotes"
  | colon => "Expecting ':' delimiter"
  | comma => "Expecting ',' delimiter"
  | extraData => "Extra data"
  | unterminatedText => "Unterminated string starting at"
  | control => "Invalid control character at"
  | escape => "Invalid \\escape"
  | unicodeEscape => "Invalid \\uXXXX escape"
  | byteOrderMark => "Unexpected UTF-8 BOM (decode using utf-8-sig)"

/-- A problem and the text from the faulty place on. -/
structure Failure where
  problem : Problem
  rest : List Char

/-- A problem and the place of it: characters before it, and its line and column counted from one. -/
structure Fault where
  problem : Problem
  offset : Nat
  line : Nat
  column : Nat
deriving DecidableEq, Repr

/-- The place of a failure in a document. -/
def Failure.locate (document : List Char) (f : Failure) : Fault :=
  let before := document.take (document.length - f.rest.length)
  { problem := f.problem
    offset := before.length
    line := before.count '\n' + 1
    column := (before.reverse.takeWhile (· != '\n')).length + 1 }

/-- The text of a fault: what is wrong, and where. -/
def Fault.message (f : Fault) : String :=
  f.problem.message ++ ": line " ++ intText f.line ++ " column " ++ intText f.column ++
    " (char " ++ intText f.offset ++ ")"

/-- The four characters that may stand between the tokens of a document. -/
def isSeparator (c : Char) : Bool :=
  c == ' ' || c == '\t' || c == '\n' || c == '\r'

/-- A text without the separators at its front. -/
def skip (cs : List Char) : List Char :=
  cs.dropWhile isSeparator

/-- The value of a hexadecimal digit. -/
def hexValue? (c : Char) : Option Nat :=
  if '0' ≤ c ∧ c ≤ '9' then some (c.toNat - '0'.toNat)
  else if 'a' ≤ c ∧ c ≤ 'f' then some (c.toNat - 'a'.toNat + 10)
  else if 'A' ≤ c ∧ c ≤ 'F' then some (c.toNat - 'A'.toNat + 10)
  else none

/-- The number written by hexadecimal digits. -/
def hexNumber? (cs : List Char) : Option Nat :=
  cs.foldl (fun n c => n.bind fun n => (hexValue? c).map (n * 16 + ·)) (some 0)

/-- The character that a backslash and a letter stand for. -/
def shortEscape? (c : Char) : Option Char :=
  match c with
  | '"' => some '"'
  | '\\' => some '\\'
  | '/' => some '/'
  | 'b' => some (Char.ofNat 8)
  | 'f' => some (Char.ofNat 12)
  | 'n' => some '\n'
  | 'r' => some '\r'
  | 't' => some '\t'
  | _ => none

/-- The character of a code unit; half of a surrogate pair is none by itself and becomes U+FFFD. -/
def unitChar (n : Nat) : Char :=
  if 0xd800 ≤ n && n < 0xe000 then Char.ofNat 0xfffd else Char.ofNat n

/-- The second half of a surrogate pair at the front of a text, when more text follows it: its value and
what follows, or none when there is no such half. -/
def lowHalf? : List Char → Except Failure (Option (Nat × List Char))
  | '\\' :: 'u' :: a :: b :: c :: d :: next :: rest =>
    match hexNumber? [a, b, c, d] with
    | none => .error ⟨.unicodeEscape, 'u' :: a :: b :: c :: d :: next :: rest⟩
    | some n => if 0xdc00 ≤ n && n < 0xe000 then .ok (some (n, next :: rest)) else .ok none
  | _ => .ok none

/-- The character written by the four digits after the letter of an escape, which more text must follow,
and what follows it. -/
def unicodeEscape : List Char → Except Failure (Char × List Char)
  | a :: b :: c :: d :: next :: rest =>
    match hexNumber? [a, b, c, d] with
    | none => .error ⟨.unicodeEscape, 'u' :: a :: b :: c :: d :: next :: rest⟩
    | some n => do
      if 0xd800 ≤ n && n < 0xdc00 then
        match ← lowHalf? (next :: rest) with
        | some (low, rest') => return (Char.ofNat (0x10000 + (n - 0xd800) * 0x400 + (low - 0xdc00)), rest')
        | none => return (unitChar n, next :: rest)
      else return (unitChar n, next :: rest)
  | cs => .error ⟨.unicodeEscape, 'u' :: cs⟩

/-- A text from behind its opening quote on: its characters, after those already read in reverse, and
what follows the closing quote. The first argument bounds the number of characters. -/
def textBody (opening : List Char) : Nat → List Char → List Char → Except Failure (String × List Char)
  | 0, _, _ => .error ⟨.unterminatedText, opening⟩
  | _ + 1, _, [] => .error ⟨.unterminatedText, opening⟩
  | fuel + 1, read, c :: rest =>
    if c == '"' then .ok (String.ofList read.reverse, rest)
    else if c == '\\' then
      match rest with
      | [] => .error ⟨.unterminatedText, opening⟩
      | letter :: more =>
        if letter == 'u' then
          match unicodeEscape more with
          | .error f => .error f
          | .ok (char, after) => textBody opening fuel (char :: read) after
        else
          match shortEscape? letter with
          | some char => textBody opening fuel (char :: read) more
          | none => .error ⟨.escape, c :: rest⟩
    else if c.toNat < 0x20 then .error ⟨.control, c :: rest⟩
    else textBody opening fuel (c :: read) rest

/-- The fraction at the front of a text: the digits after a point, if there are any. -/
def fraction : List Char → List Nat × List Char
  | '.' :: rest =>
    match leadingDigits rest with
    | ([], _) => ([], '.' :: rest)
    | (ds, after) => (ds, after)
  | cs => ([], cs)

/-- The exponent at the front of a text: a mark, perhaps a sign, and digits, if there are any. -/
def exponent : List Char → Option Int × List Char
  | mark :: rest =>
    if mark == 'e' || mark == 'E' then
      let (negative, digits) := leadingSign rest
      match leadingDigits digits with
      | ([], _) => (none, mark :: rest)
      | (ds, after) => (some (if negative then -(ofDigits ds : Int) else ofDigits ds), after)
    else (none, mark :: rest)
  | [] => (none, [])

/-- The number at the front of a text without its sign, and what follows: an integer, or a double when it
has a fraction or an exponent. A zero ends the whole part. -/
def unsignedNumber? (negative : Bool) (cs : List Char) : Option (Value × List Char) :=
  let (whole, rest) :=
    match cs with
    | '0' :: rest => ([0], rest)
    | cs => leadingDigits cs
  if whole.isEmpty then none else
    match fraction rest, exponent (fraction rest).2 with
    | ([], _), (none, after) =>
      let n : Int := ofDigits whole
      some (.int (if negative then -n else n), after)
    | (places, _), (power, after) =>
      let x := ofDecimal (ofDigits (whole ++ places)) (power.getD 0 - places.length)
      some (.float (if negative then -x else x), after)

/-- A word at the front of a text, and what follows it. -/
def word? (w : String) (cs : List Char) : Option (List Char) :=
  if w.toList.isPrefixOf cs then some (cs.drop w.toList.length) else none

/-- The values that are written as a word. -/
def words : List (String × Value) :=
  [("null", .null), ("true", .bool true), ("false", .bool false), ("NaN", .float (0.0 / 0.0)),
    ("Infinity", .float (1.0 / 0.0)), ("-Infinity", .float (-1.0 / 0.0))]

/-- A number or a word at the front of a text. -/
def atom (cs : List Char) : Except Failure (Value × List Char) :=
  match words.findSome? fun (w, v) => (word? w cs).map fun rest => (v, rest) with
  | some found => .ok found
  | none =>
    let found :=
      match cs with
      | '-' :: rest => unsignedNumber? true rest
      | cs => unsignedNumber? false cs
    match found with
    | some found => .ok found
    | none => .error ⟨.value, cs⟩

mutual

/-- The value at the front of a text, and what follows it. -/
def value : Nat → List Char → Except Failure (Value × List Char)
  | 0, cs => .error ⟨.value, cs⟩
  | fuel + 1, cs =>
    match cs with
    | '"' :: rest => do
      let (s, after) ← textBody cs (rest.length + 1) [] rest
      return (.text s, after)
    | '\x7b' :: rest =>
      match skip rest with
      | '\x7d' :: after => .ok (.object [], after)
      | rest => do
        let (entries, after) ← members fuel rest
        return (.object (Members.ofEntries entries), after)
    | '[' :: rest =>
      match skip rest with
      | ']' :: after => .ok (.list [], after)
      | rest => do
        let (items, after) ← items fuel rest
        return (.list items, after)
    | cs => atom cs

/-- The items of a list from the first one on, and what follows the closing bracket. -/
def items : Nat → List Char → Except Failure (List Value × List Char)
  | 0, cs => .error ⟨.value, cs⟩
  | fuel + 1, cs => do
    let (v, rest) ← value fuel cs
    match skip rest with
    | ']' :: after => return ([v], after)
    | ',' :: rest =>
      let (vs, after) ← items fuel (skip rest)
      return (v :: vs, after)
    | rest => throw ⟨.comma, rest⟩

/-- The members of an object from the first one on, and what follows the closing brace. -/
def members : Nat → List Char → Except Failure (List (String × Value) × List Char)
  | 0, cs => .error ⟨.memberName, cs⟩
  | fuel + 1, cs =>
    match cs with
    | '"' :: rest => do
      let (key, rest) ← textBody cs (rest.length + 1) [] rest
      match skip rest with
      | ':' :: rest =>
        let (v, rest) ← value fuel (skip rest)
        match skip rest with
        | '\x7d' :: after => return ([(key, v)], after)
        | ',' :: rest =>
          let (more, after) ← members fuel (skip rest)
          return ((key, v) :: more, after)
        | rest => throw ⟨.comma, rest⟩
      | rest => throw ⟨.colon, rest⟩
    | cs => .error ⟨.memberName, cs⟩

end

/-- The value of a whole document. Each step of the reader but every second one takes a character, which
bounds their number. -/
def document (cs : List Char) : Except Failure Value := do
  if cs.head? == some (Char.ofNat 0xfeff) then throw ⟨.byteOrderMark, cs⟩
  let (v, rest) ← value (2 * cs.length + 2) (skip cs)
  match skip rest with
  | [] => return v
  | rest => throw ⟨.extraData, rest⟩

/-- Reads a document. -/
def read (text : String) : Except Fault Value :=
  match document text.toList with
  | .ok v => .ok v
  | .error f => .error (f.locate text.toList)

end DesignKit.Json
