import DesignKit.Number.Text
import DesignKit.Text.Quoted
import DesignKit.Toml.Moment

/-! # TOML values

The values of TOML documents. They are those of other documents but for null, which there is none of, and for moments.
A key occurs once in a table; writing it again replaces the value and keeps the place. -/

namespace DesignKit.Toml
open Number Text

inductive Value where
  | bool (b : Bool)
  | int (n : Int)
  | float (x : Float)
  | text (s : String)
  | moment (m : Moment)
  | list (items : List Value)
  | table (members : List (String × Value))
deriving Inhabited

/-- The members of a table, in order. -/
abbrev Table := List (String × Value)

namespace Table

/-- The value of a key. -/
def get? (t : Table) (key : String) : Option Value :=
  t.lookup key

/-- A key is present. -/
def has (t : Table) (key : String) : Bool :=
  (t.get? key).isSome

/-- The value of a key, or a default when it is absent. -/
def getD (t : Table) (key : String) (default : Value) : Value :=
  (t.get? key).getD default

/-- Gives a key a value: in its place when it is present, at the end otherwise. -/
def set : Table → String → Value → Table
  | [], key, v => [(key, v)]
  | (k, old) :: rest, key, v => if k == key then (k, v) :: rest else (k, old) :: set rest key v

/-- The keys, in order. -/
def keys (t : Table) : List String :=
  t.map (·.1)

end Table

namespace Value

/-- The members of a table. -/
def table? : Value → Option Table
  | table t => some t
  | _ => none

/-- The text of a text. -/
def text? : Value → Option String
  | text s => some s
  | _ => none

/-- What a walk over a value meets: the items of a list, the keys of a table, the characters of a text. Other values
cannot be walked over. -/
def items? : Value → Option (List Value)
  | list items => some items
  | table t => some ((Table.keys t).map text)
  | text s => some (s.toList.map fun c => text (String.singleton c))
  | _ => none

/-- How many digits an integer may have to be read or printed in decimal. -/
def mostDigits : Nat := 4300

/-- An integer has too many digits. -/
def isLongInt (n : Int) : Bool :=
  mostDigits < (natText n.natAbs).length

mutual

/-- There is an integer with too many digits in a value. -/
def isLong : Value → Bool
  | int n => isLongInt n
  | list items => isLongAmong items
  | table t => isLongWithin t
  | _ => false

def isLongAmong : List Value → Bool
  | [] => false
  | v :: rest => isLong v || isLongAmong rest

def isLongWithin : List (String × Value) → Bool
  | [] => false
  | (_, v) :: rest => isLong v || isLongWithin rest

end

mutual

/-- A value as it stands inside a list or a table: texts in quotes. -/
def inner : Value → String
  | bool b => if b then "True" else "False"
  | int n => intText n
  | float x => FloatStyle.plain.text x
  | text s => quoted s
  | moment m => m.inner
  | list items => "[" ++ ", ".intercalate (innerItems items) ++ "]"
  | table t => "\x7b" ++ ", ".intercalate (innerMembers t) ++ "\x7d"

def innerItems : List Value → List String
  | [] => []
  | v :: rest => inner v :: innerItems rest

def innerMembers : List (String × Value) → List String
  | [] => []
  | (key, v) :: rest => (quoted key ++ ": " ++ inner v) :: innerMembers rest

end

/-- The text of a value. -/
def print : Value → String
  | text s => s
  | moment m => m.print
  | v => v.inner

end Value
end DesignKit.Toml
