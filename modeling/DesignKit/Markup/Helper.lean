import DesignKit.Markup
import DesignKit.Props
import DesignKit.Text.Blank
import DesignKit.Text.Search

/-! # Helpers of component templates

What the templates share: lists of class names and of attributes from conditions and values, flags that may
be written as words, and texts taken apart at their line breaks. -/

namespace DesignKit
namespace Helper

/-- The names of the entries whose name and condition are true. All of them must be texts. -/
def chosenNames : Entries → Except Fault (List String)
  | [] => .ok []
  | (name, condition) :: rest =>
    if name.truthy && condition.truthy then
      match name.text? with
      | some s => (s :: ·) <$> chosenNames rest
      | none => .error .notText
    else chosenNames rest

/-- A class list: the names whose condition is true. A name that is given twice keeps its first place and
takes its last condition. -/
def classes (entries : List (Value × Value)) : Except Fault String :=
  if entries.all fun (name, _) => name.isKey then
    (" ".intercalate ·) <$> chosenNames (entries.foldl (fun m (name, condition) => m.set name condition) [])
  else .error .notKey

/-- A condition of a class list. -/
def named (name : String) (condition : Bool) : Value × Value :=
  (.text name, .bool condition)

/-- The text of an attribute, if it has one: null, false and the empty text leave an attribute out. -/
def attributeText? : Value → Option String
  | .null => none
  | .bool false => none
  | .bool true => some "true"
  | .text s => if s == "" then none else some s
  | v => some v.print

/-- The attributes that are not left out. -/
def attributes (entries : List (String × Value)) : List Item :=
  entries.filterMap fun (name, v) => (attributeText? v).map (Item.attr name)

/-- Attributes in an opening tag that always leaves a blank for them. -/
def attributeItems (entries : List (String × Value)) : List Item :=
  let items := attributes entries
  if items.isEmpty then [.gap] else items

/-- The written form of attributes, separated by blanks. -/
def attributeList (entries : List (String × Value)) : String :=
  String.ofList ((attributes entries).flatMap Item.chars |>.drop 1)

/-- A flag: one of four words in any case for a text, the truth of any other value. -/
def flag : Value → Bool
  | .text s => ["true", "1", "yes", "on"].contains (String.ofList ((Text.strip s).toList.map Char.toLower))
  | v => v.truthy

/-- The lines of a value's text; null has none. -/
def lines : Value → List String
  | .null => []
  | v => (v.print.toList.splitOn '\n').map String.ofList

/-- Lines as markup, with a break element at the end of each but the last. -/
def brokenLines : List String → Markup
  | [] => []
  | [s] => [.text s]
  | s :: rest => .text s :: .void "br" [] .plain :: Markup.newline :: brokenLines rest

/-- A value's text with its line breaks shown. -/
def withBreaks (v : Value) : Markup :=
  brokenLines (lines v)

/-- The first character of a true value's text. -/
def firstChar (v : Value) : String :=
  if v.truthy then String.ofList (v.print.toList.take 1) else ""

/-- The integer that a value gives: a text may write an integer or a decimal, which loses its fraction; what
gives none counts as the default. An infinity is no default and no integer. -/
def integer (default : Int) : Value → Except Fault Int
  | .text s =>
    match Number.readInt? s with
    | some n => .ok n
    | none =>
      match (Number.readFloat? s).bind Number.Binary.ofFloat? with
      | some b => .ok b.truncate
      | none => .ok default
  | .float x =>
    match Number.Binary.ofFloat? x with
    | some b => .ok b.truncate
    | none => if x.isNaN then .ok default else .error .overflow
  | v => .ok (v.int?.getD default)

/-- Whether a value occurs in another: among the items of a list, as a part of a text, as a key of an
object. -/
def occurs (v container : Value) : Except Fault Bool :=
  match container with
  | .list items => .ok (v.isAmong items)
  | .object members =>
    if v.isKey then .ok (v.text?.any fun s => members.any (·.1 == s)) else .error .notKey
  | .text s =>
    match v.text? with
    | some part => .ok (Text.holds s part)
    | none => .error .notText
  | _ => .error .noItems

/-- The attributes that an editor adds to the element of a component, given as markup. -/
def editable (props : Members) : List Item :=
  Item.given (props.get "editable").truthy (.verbatim (props.get "editable").print)

/-- The colorway of an element, unless it is the parent's. -/
def colorway (v : Value) : List Item :=
  Item.given (!v.same (.text "inherit")) (.valued "data-colorway" v)

/-- A member of a value in a template; the value must be an object. -/
def member (v : Value) (key : String) (default : Value) : Except Fault Value :=
  match v.members? with
  | some m => .ok (m.getD key default)
  | none => .error .noMembersInTemplate

/-- A member of an object under a key of any kind; only texts are keys of objects. -/
def memberAt (v key default : Value) : Except Fault Value :=
  match v.members? with
  | none => .error .noMembersInTemplate
  | some m =>
    match key with
    | .text s => .ok (m.getD s default)
    | key => if key.isKey then .ok default else .error .notKey

/-- The items of a value in a template. -/
def items (v : Value) : Except Fault (List Value) :=
  match v.items? with
  | some vs => .ok vs
  | none => .error .noItems

end Helper
end DesignKit
