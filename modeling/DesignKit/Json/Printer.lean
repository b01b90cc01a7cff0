import DesignKit.Value
import DesignKit.Number.Text
import DesignKit.Text.Quoted

/-! # JSON text

Values written as JSON. On one line there is a blank after each comma and colon; indented, each item has a
line of its own. Within texts only the quote, the backslash and the controls below the space are escaped,
or, where the output has to be ASCII, every other character as well. -/

namespace DesignKit.Value
open Number

/-- A character escaped by its UTF-16 units. -/
def utf16Escape (c : Char) : List Char :=
  let n := c.toNat
  let unit (u : Nat) : List Char := '\\' :: 'u' :: Text.hexDigits 4 u
  if n < 0x10000 then unit n
  else unit (0xd800 + (n - 0x10000) / 0x400) ++ unit (0xdc00 + (n - 0x10000) % 0x400)

/-- One character of a JSON text. -/
def jsonChar (ascii : Bool) (c : Char) : List Char :=
  if c == '"' then ['\\', '"']
  else if c == '\\' then ['\\', '\\']
  else if c == '\n' then ['\\', 'n']
  else if c == '\r' then ['\\', 'r']
  else if c == '\t' then ['\\', 't']
  else if c.toNat == 8 then ['\\', 'b']
  else if c.toNat == 12 then ['\\', 'f']
  else if c.toNat < 0x20 || (ascii && 0x7f ≤ c.toNat) then utf16Escape c
  else [c]

/-- A text in JSON quotes. -/
def jsonText (ascii : Bool) (s : String) : String :=
  "\"" ++ String.ofList (s.toList.flatMap (jsonChar ascii)) ++ "\""

mutual

/-- A value on one line. -/
def toJson : Value → String
  | null => "null"
  | bool b => if b then "true" else "false"
  | int n => intText n
  | float x => FloatStyle.json.text x
  | text s => jsonText false s
  | list items => "[" ++ ", ".intercalate (jsonItems items) ++ "]"
  | object members => "\x7b" ++ ", ".intercalate (jsonMembers members) ++ "\x7d"

def jsonItems : List Value → List String
  | [] => []
  | v :: rest => toJson v :: jsonItems rest

def jsonMembers : List (String × Value) → List String
  | [] => []
  | (key, v) :: rest => (jsonText false key ++ ": " ++ toJson v) :: jsonMembers rest

end

/-- A line break and the indentation of a nesting level, two blanks each. -/
def newline (level : Nat) : String :=
  "\n" ++ String.ofList (List.replicate (2 * level) ' ')

mutual

/-- A value over several lines, its items indented one level further than its brackets. -/
def indented (ascii : Bool) (level : Nat) : Value → String
  | text s => jsonText ascii s
  | list [] => "[]"
  | list items =>
    "[" ++ newline (level + 1) ++ ("," ++ newline (level + 1)).intercalate (indentedItems ascii (level + 1) items)
      ++ newline level ++ "]"
  | object [] => "\x7b\x7d"
  | object members =>
    "\x7b" ++ newline (level + 1)
      ++ ("," ++ newline (level + 1)).intercalate (indentedMembers ascii (level + 1) members)
      ++ newline level ++ "\x7d"
  | v => v.toJson

def indentedItems (ascii : Bool) (level : Nat) : List Value → List String
  | [] => []
  | v :: rest => indented ascii level v :: indentedItems ascii level rest

def indentedMembers (ascii : Bool) (level : Nat) : List (String × Value) → List String
  | [] => []
  | (key, v) :: rest =>
    (jsonText ascii key ++ ": " ++ indented ascii level v) :: indentedMembers ascii level rest

end

end DesignKit.Value
