import DesignKit.Json.Reader
import DesignKit.Toml.Document

/-! # Reading TOML

A reader for TOML documents: tables, arrays of tables, dotted keys, texts in one or three quotes, integers,
doubles, truth values, moments, arrays and inline tables. A document has a meaning or is refused; one that writes a
decimal integer of too many digits is refused at that place, whatever follows it. How deeply arrays and inline tables
may be nested in each other is not limited here. -/

namespace DesignKit.Toml
open Number

/-- Why a document is refused. -/
inductive Failure where
  | malformed
  | longNumber
deriving DecidableEq, Repr

/-- What a document must have at a place, or else it is malformed. -/
def need {α : Type} : Option α → Except Failure α
  | some a => .ok a
  | none => .error .malformed

/-- The blanks within a line. -/
def isBlank (c : Char) : Bool :=
  c == ' ' || c == '\t'

/-- A text without the blanks at its front. -/
def skip (cs : List Char) : List Char :=
  cs.dropWhile isBlank

/-- A control character, which may not stand in texts and comments; tabs may. -/
def isControl (c : Char) : Bool :=
  (c.toNat < 0x20 && c != '\t') || c.toNat == 0x7f

/-- A character of a key without quotes. -/
def isBare (c : Char) : Bool :=
  ('a' ≤ c && c ≤ 'z') || ('A' ≤ c && c ≤ 'Z') || ('0' ≤ c && c ≤ '9') || c == '-' || c == '_'

/-- What follows a comment, if there is one. -/
def skipComment : List Char → Option (List Char)
  | '#' :: rest =>
    let comment := rest.takeWhile (· != '\n')
    if comment.any isControl then none else some (rest.dropWhile (· != '\n'))
  | cs => some cs

/-- What follows the blanks, line breaks and comments at the front of a text. -/
def skipLines : Nat → List Char → Option (List Char)
  | 0, _ => none
  | fuel + 1, cs =>
    match cs.dropWhile (fun c => isBlank c || c == '\n') with
    | '#' :: rest => (skipComment ('#' :: rest)).bind (skipLines fuel)
    | cs => some cs

/-! ### Texts -/

/-- The character written by a number of hexadecimal digits at the front of a text, and what follows. -/
def codePoint (digits : Nat) (cs : List Char) : Option (Char × List Char) :=
  let code := cs.take digits
  if code.length != digits then none
  else (Json.hexNumber? code).bind fun n => if n.isValidChar then some (Char.ofNat n, cs.drop digits) else none

/-- The character of an escape, and what follows it. -/
def escape : List Char → Option (Char × List Char)
  | 'u' :: rest => codePoint 4 rest
  | 'U' :: rest => codePoint 8 rest
  | '/' :: _ => none
  | c :: rest => (Json.shortEscape? c).map fun char => (char, rest)
  | [] => none

/-- What follows a backslash at the end of a line: the next character that is not blank. -/
def continued? (cs : List Char) : Option (List Char) :=
  match skip cs with
  | '\n' :: rest => some (rest.dropWhile fun c => isBlank c || c == '\n')
  | [] => if cs.isEmpty then none else some []
  | _ => none

/-- A text in quotes from behind the opening quote on: its characters, after those already read in reverse,
and what follows the closing quote. -/
def basicText : Nat → List Char → List Char → Option (String × List Char)
  | 0, _, _ => none
  | _ + 1, _, [] => none
  | fuel + 1, read, c :: rest =>
    if c == '"' then some (String.ofList read.reverse, rest)
    else if c == '\\' then
      match escape rest with
      | some (char, after) => basicText fuel (char :: read) after
      | none => none
    else if isControl c then none
    else basicText fuel (c :: read) rest

/-- A text in three quotes from behind the opening quotes on. -/
def longText : Nat → List Char → List Char → Option (String × List Char)
  | 0, _, _ => none
  | _ + 1, _, [] => none
  | fuel + 1, read, c :: rest =>
    if ['"', '"', '"'].isPrefixOf (c :: rest) then some (String.ofList read.reverse, rest.drop 2)
    else if c == '\\' then
      match escape rest with
      | some (char, after) => longText fuel (char :: read) after
      | none =>
        match continued? rest with
        | some after => longText fuel read after
        | none => none
    else if isControl c && c != '\n' then none
    else longText fuel (c :: read) rest

/-- A text in apostrophes from behind the opening one on: everything in it stands for itself. -/
def literalText (cs : List Char) : Option (String × List Char) :=
  let body := cs.takeWhile (· != '\x27')
  match cs.dropWhile (· != '\x27') with
  | _ :: rest => if body.any isControl then none else some (String.ofList body, rest)
  | [] => none

/-- A text in three apostrophes from behind the opening ones on. -/
def longLiteral : List Char → List Char → Option (String × List Char)
  | _, [] => none
  | read, c :: rest =>
    if ['\x27', '\x27', '\x27'].isPrefixOf (c :: rest) then some (String.ofList read.reverse, rest.drop 2)
    else if isControl c && c != '\n' then none
    else longLiteral (c :: read) rest

/-- A text in three quotes may end in one or two quotes of its own, before the three that close it. -/
def withQuotes (quote : Char) : Option (String × List Char) → Option (String × List Char)
  | some (s, c :: rest) =>
    if c != quote then some (s, c :: rest)
    else
      match rest with
      | d :: rest => if d == quote then some ((s.push quote).push quote, rest) else some (s.push quote, d :: rest)
      | [] => some (s.push quote, [])
  | found => found

/-- A line break right behind three opening quotes does not count. -/
def dropBreak : List Char → List Char
  | '\n' :: rest => rest
  | cs => cs

/-- A text of any kind at the front of a text. -/
def anyText : List Char → Option (String × List Char)
  | '"' :: '"' :: '"' :: rest => withQuotes '"' (longText (rest.length + 1) [] (dropBreak rest))
  | '"' :: rest => basicText (rest.length + 1) [] rest
  | '\x27' :: '\x27' :: '\x27' :: rest => withQuotes '\x27' (longLiteral [] (dropBreak rest))
  | '\x27' :: rest => literalText rest
  | _ => none

/-! ### Keys -/

/-- One part of a key. -/
def keyPart : List Char → Option (String × List Char)
  | '"' :: rest => basicText (rest.length + 1) [] rest
  | '\x27' :: rest => literalText rest
  | cs => if (cs.takeWhile isBare).isEmpty then none else some (String.ofList (cs.takeWhile isBare), cs.dropWhile isBare)

/-- A dotted key, and what follows it and the blanks after it. -/
def key : Nat → List Char → Option (Key × List Char)
  | 0, _ => none
  | fuel + 1, cs =>
    match keyPart cs with
    | none => none
    | some (part, rest) =>
      match skip rest with
      | '.' :: rest => (key fuel (skip rest)).map fun (parts, rest) => (part :: parts, rest)
      | rest => some ([part], rest)

/-! ### Numbers -/

/-- The digits of a kind at the front of a text, single underscores between them left out. -/
def digitRun (isDigit : Char → Bool) : List Char → List Char × List Char
  | [] => ([], [])
  | [c] => if isDigit c then ([c], []) else ([], [c])
  | c :: d :: rest =>
    if !isDigit c then ([], c :: d :: rest)
    else if d == '_' then
      match rest with
      | e :: more =>
        if isDigit e then
          let (ds, after) := digitRun isDigit (e :: more)
          (c :: ds, after)
        else ([c], d :: rest)
      | [] => ([c], d :: rest)
    else
      let (ds, after) := digitRun isDigit (d :: rest)
      (c :: ds, after)
termination_by cs => cs.length

/-- The number that digits write in a base. -/
def inBase (base : Nat) (ds : List Char) : Nat :=
  ds.foldl (fun n c => n * base + (Json.hexValue? c).getD 0) 0

/-- An integer behind the mark of its base. -/
def based? (base : Nat) (isDigit : Char → Bool) (cs : List Char) : Option (Value × List Char) :=
  match digitRun isDigit cs with
  | ([], _) => none
  | (ds, rest) => some (.int (inBase base ds), rest)

/-- The digits before the point of a decimal: a zero, or digits of which the first is not zero. -/
def wholePart : List Char → List Char × List Char
  | '0' :: rest => (['0'], rest)
  | cs => digitRun Char.isDigit cs

/-- The point of a decimal and the digits after it. -/
def fractionPart : List Char → List Char × List Char
  | '.' :: rest =>
    match digitRun Char.isDigit rest with
    | ([], _) => ([], '.' :: rest)
    | (ds, after) => ('.' :: ds, after)
  | cs => ([], cs)

/-- The exponent of a decimal. -/
def exponentPart : List Char → List Char × List Char
  | mark :: rest =>
    if mark == 'e' || mark == 'E' then
      let (sign, digits) :=
        match rest with
        | '-' :: digits => (['-'], digits)
        | '+' :: digits => (['+'], digits)
        | digits => ([], digits)
      match digitRun Char.isDigit digits with
      | ([], _) => ([], mark :: rest)
      | (ds, after) => (mark :: sign ++ ds, after)
    else ([], mark :: rest)
  | [] => ([], [])

/-- A decimal: an integer, or a double when it has a fraction or an exponent. -/
def decimal? (cs : List Char) : Option (Value × List Char) :=
  let (negative, unsigned) := leadingSign cs
  let (whole, rest) := wholePart unsigned
  let (fraction, rest) := fractionPart rest
  let (power, rest) := exponentPart rest
  if whole.isEmpty then none
  else if fraction.isEmpty && power.isEmpty then
    let n : Int := inBase 10 whole
    some (.int (if negative then -n else n), rest)
  else (unsignedFloat? (whole ++ fraction ++ power)).map fun x => (.float (if negative then -x else x), rest)

/-- The values that are written as a word. -/
def words : List (String × Value) :=
  [("true", .bool true), ("false", .bool false), ("inf", .float (1.0 / 0.0)), ("+inf", .float (1.0 / 0.0)),
    ("-inf", .float (-1.0 / 0.0)), ("nan", .float (0.0 / 0.0)), ("+nan", .float (0.0 / 0.0)),
    ("-nan", .float (0.0 / 0.0))]

/-- A number. In a base other than ten it may have any number of digits. -/
def number? (cs : List Char) : Option (Except Failure (Value × List Char)) :=
  match cs with
  | '0' :: 'x' :: rest => .ok <$> based? 16 (fun c => (Json.hexValue? c).isSome) rest
  | '0' :: 'o' :: rest => .ok <$> based? 8 (fun c => '0' ≤ c && c ≤ '7') rest
  | '0' :: 'b' :: rest => .ok <$> based? 2 (fun c => c == '0' || c == '1') rest
  | cs =>
    match decimal? cs with
    | none => none
    | some (v, rest) => some (if v.isLong then .error .longNumber else .ok (v, rest))

/-- A moment, a number or a word. Moments come first, since they begin like numbers. -/
def atom (cs : List Char) : Except Failure (Value × List Char) :=
  match moment? cs with
  | some (found, rest) => do return (.moment (← need found), rest)
  | none =>
    match number? cs with
    | some found => found
    | none => need (words.findSome? fun (w, v) => (Json.word? w cs).map fun rest => (v, rest))

/-! ### Values -/

mutual

/-- The value at the front of a text, and what follows it. -/
def value : Nat → List Char → Except Failure (Value × List Char)
  | 0, _ => .error .malformed
  | fuel + 1, cs =>
    match cs with
    | '[' :: rest => do
      let rest ← need (skipLines (rest.length + 1) rest)
      match rest with
      | ']' :: rest => return (.list [], rest)
      | rest =>
        let (vs, rest) ← items fuel rest
        return (.list vs, rest)
    | '\x7b' :: rest =>
      match skip rest with
      | '\x7d' :: rest => .ok (.table [], rest)
      | rest => do
        let (t, rest) ← inlineMembers fuel Document.empty rest
        return (.table t, rest)
    | cs =>
      match anyText cs with
      | some (s, rest) => .ok (.text s, rest)
      | none => atom cs

/-- The items of an array from the first one on, and what follows the closing bracket. A comma may stand
before it. -/
def items : Nat → List Char → Except Failure (List Value × List Char)
  | 0, _ => .error .malformed
  | fuel + 1, cs => do
    let (v, rest) ← value fuel cs
    match ← need (skipLines (rest.length + 1) rest) with
    | ']' :: rest => return ([v], rest)
    | ',' :: rest =>
      match ← need (skipLines (rest.length + 1) rest) with
      | ']' :: rest => return ([v], rest)
      | rest =>
        let (vs, rest) ← items fuel rest
        return (v :: vs, rest)
    | _ => throw .malformed

/-- The members of an inline table from the next one on, and what follows the closing brace. -/
def inlineMembers : Nat → Document → List Char → Except Failure (Table × List Char)
  | 0, _, _ => .error .malformed
  | fuel + 1, d, cs => do
    let (parts, rest) ← need (key (cs.length + 1) cs)
    match rest with
    | '=' :: rest =>
      let (v, rest) ← value fuel (skip rest)
      let d ← need (d.set parts v)
      match skip rest with
      | '\x7d' :: rest => return (d.table, rest)
      | ',' :: rest => inlineMembers fuel d (skip rest)
      | _ => throw .malformed
    | _ => throw .malformed

end

/-! ### Statements -/

/-- The header or the assignment at the front of a text, if there is one, and what follows it. -/
def statement (d : Document) (cs : List Char) : Except Failure (Document × List Char) :=
  match cs with
  | '[' :: '[' :: rest => do
    let (parts, rest) ← need (key (rest.length + 1) (skip rest))
    match rest with
    | ']' :: ']' :: rest => return (← need (d.openItem parts), rest)
    | _ => throw .malformed
  | '[' :: rest => do
    let (parts, rest) ← need (key (rest.length + 1) (skip rest))
    match rest with
    | ']' :: rest => return (← need (d.openTable parts), rest)
    | _ => throw .malformed
  | c :: rest =>
    if isBare c || c == '"' || c == '\x27' then do
      let (parts, rest) ← need (key (rest.length + 2) (c :: rest))
      match rest with
      | '=' :: rest =>
        let (v, rest) ← value (2 * rest.length + 2) (skip rest)
        return (← need (d.set parts v), rest)
      | _ => throw .malformed
    else .ok (d, c :: rest)
  | [] => .ok (d, [])

/-- The table of a document from a line on. -/
def lines : Nat → Document → List Char → Except Failure Table
  | 0, _, _ => .error .malformed
  | fuel + 1, d, cs => do
    let (d, rest) ← statement d (skip cs)
    match ← need (skipComment (skip rest)) with
    | [] => return d.table
    | '\n' :: rest => lines fuel d rest
    | _ => throw .malformed

/-- Reads a document. -/
def read (text : String) : Except Failure Table :=
  lines (text.length + 1) Document.empty text.toList

end DesignKit.Toml
