import DesignKit.Text.Escape
import DesignKit.Value.Text

/-! # Markup

Markup is a forest of elements and texts. Texts and attribute values are kept as they read and escaped when
the markup is printed, so what an author gives can become neither a tag nor the end of an attribute. Only
what is marked as verbatim is printed as it is. -/

namespace DesignKit
open Text

/-- What stands in an opening tag behind its name, each item after one blank. -/
inductive Item where
  /-- A name with a quoted value. -/
  | attr (name value : String)
  /-- A name alone. -/
  | flag (name : String)
  /-- Nothing but the blank itself. -/
  | gap
  /-- A text that is printed as it is. -/
  | verbatim (s : String)
deriving DecidableEq, Repr

/-- How the tag of an element without content ends. -/
inductive TagEnd where
  | plain
  | slash
  | spacedSlash
deriving DecidableEq, Repr

/-- A part of a forest. -/
inductive Node where
  /-- A text between tags. -/
  | text (s : String)
  /-- A character given by its code point. -/
  | reference (code : Nat)
  /-- A text that is printed as it is. -/
  | verbatim (s : String)
  /-- An element that has no content and no closing tag. -/
  | void (tag : String) (items : List Item) (tagEnd : TagEnd)
  /-- An element with its content between an opening and a closing tag. -/
  | element (tag : String) (items : List Item) (content : List Node)
  /-- The markup of a component within that of another. -/
  | embedded (content : List Node)
deriving Repr

/-- A forest. -/
abbrev Markup := List Node

/-- The written form of an item: a blank, and what stands behind it. -/
def Item.chars : Item → List Char
  | attr name value => ' ' :: name.toList ++ '=' :: '"' :: escapeChars value.toList ++ ['"']
  | flag name => ' ' :: name.toList
  | gap => [' ']
  | verbatim s => ' ' :: s.toList

/-- The written form of the end of a tag. -/
def TagEnd.chars : TagEnd → List Char
  | plain => ['>']
  | slash => ['/', '>']
  | spacedSlash => [' ', '/', '>']

mutual

/-- The written form of a part. -/
def Node.chars : Node → List Char
  | .text s => escapeChars s.toList
  | .reference code => '&' :: '#' :: Number.natText code ++ [';']
  | .verbatim s => s.toList
  | .void tag items tagEnd => '<' :: tag.toList ++ items.flatMap Item.chars ++ tagEnd.chars
  | .element tag items content =>
    '<' :: tag.toList ++ items.flatMap Item.chars ++ '>' :: Markup.chars content ++ '<' :: '/' :: tag.toList ++ ['>']
  | .embedded content => Markup.chars content

/-- The written form of a forest: that of its parts one after the other. -/
def Markup.chars : List Node → List Char
  | [] => []
  | n :: rest => n.chars ++ Markup.chars rest

end

/-- The printed form of a value as a text. -/
def Node.ofValue (v : Value) : Node := .text v.print

namespace Markup

/-- The text of a forest. -/
def print (m : Markup) : String :=
  String.ofList (chars m)

/-- A text that is printed as it is, as a forest; an empty one is an empty forest. -/
def ofVerbatim (s : String) : Markup :=
  if s == "" then [] else [.verbatim s]

/-- A line break. -/
def newline : Node := .text "\n"

/-- The blanks at the start of a line. -/
def pad (n : Nat) : Node := .text (String.ofList (List.replicate n ' '))

/-- A part on an indented line of its own. -/
def line (indent : Nat) (n : Node) : Markup := [pad indent, n, newline]

/-- A forest that is there under a condition. -/
def given (condition : Bool) (m : Markup) : Markup := if condition then m else []

/-- An element whose content starts on the next line and whose closing tag stands on an indented line. -/
def block (indent : Nat) (tag : String) (items : List Item) (content : Markup) : Node :=
  .element tag items (newline :: content ++ [pad indent])

/-- An element over several lines, itself on indented lines. -/
def blockLine (indent : Nat) (tag : String) (items : List Item) (content : Markup) : Markup :=
  line indent (block indent tag items content)

/-- Markup of components, each followed by a line break but the last. -/
def joinLines : List Markup → Markup
  | [] => []
  | [m] => [.embedded m]
  | m :: rest => .embedded m :: newline :: joinLines rest

end Markup

namespace Item

/-- The class attribute. -/
def classed (names : String) : Item := attr "class" names

/-- An attribute with the printed form of a value. -/
def valued (name : String) (v : Value) : Item := attr name v.print

/-- An item that is there under a condition. -/
def given (condition : Bool) (item : Item) : List Item := if condition then [item] else []

end Item
end DesignKit
