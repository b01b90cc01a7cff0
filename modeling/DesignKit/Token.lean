import DesignKit.Value

/-! # Design tokens

A token is a custom property of a stylesheet with its value and the category under which it is listed. A
table holds tokens in the order in which they are emitted. A name may occur more than once; looking it up
finds the first, collecting the table into an object keeps the last. -/

namespace DesignKit

/-- The categories of the tokens that a document compiles to. -/
inductive Category where
  | spacing
  | typography
  | colors
  | borders
  | shadows
  | radius
deriving DecidableEq, Repr

/-- The heading under which a category is listed. -/
def Category.name : Category → String
  | spacing => "Spacing"
  | typography => "Typography"
  | colors => "Colors"
  | borders => "Borders"
  | shadows => "Shadows"
  | radius => "Radius"

/-- A custom property: its name with the leading dashes, its category and its value. -/
structure Token where
  name : String
  category : String
  value : String
deriving DecidableEq, Repr

/-- Tokens in the order of their emission. -/
abbrev Table := List Token

namespace Table

/-- A table with one more token at its end. -/
def add (t : Table) (token : Token) : Table :=
  t ++ [token]

/-- The value of the first token of a name. -/
def get? (t : Table) (name : String) : Option String :=
  (t.find? (·.name == name)).map (·.value)

/-- The table as an object: each name in the place of its first token, with the value of its last. -/
def toMembers (t : Table) : Members :=
  Members.ofEntries (t.map fun token => (token.name, .text token.value))

end Table
end DesignKit
