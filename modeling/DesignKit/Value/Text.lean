import DesignKit.Value
import DesignKit.Number.Text
import DesignKit.Text.Quoted

/-! # The text of a value

How a value reads when it is printed into markup or a message: texts as they are, numbers in decimal, the
three constants by their names, lists and objects in brackets with the texts inside them quoted. -/

namespace DesignKit.Value
open Number Text

mutual

/-- A value as it stands inside a list or an object: texts in quotes. -/
def inner : Value → String
  | null => "None"
  | bool b => if b then "True" else "False"
  | int n => intText n
  | float x => FloatStyle.plain.text x
  | text s => quoted s
  | list items => "[" ++ ", ".intercalate (innerItems items) ++ "]"
  | object members => "\x7b" ++ ", ".intercalate (innerMembers members) ++ "\x7d"

def innerItems : List Value → List String
  | [] => []
  | v :: rest => inner v :: innerItems rest

def innerMembers : List (String × Value) → List String
  | [] => []
  | (key, v) :: rest => (quoted key ++ ": " ++ inner v) :: innerMembers rest

end

/-- The text of a value. -/
def print : Value → String
  | text s => s
  | v => v.inner

end DesignKit.Value
