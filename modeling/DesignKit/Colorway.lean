import DesignKit.Token.Document

/-! # Colorways

A colorway overrides entries of the palette under a name of its own. A document declares its colorways
within the color section or, when there are none, at its top. -/

namespace DesignKit

/-- A named override of palette entries. -/
structure Colorway where
  name : String
  values : List (String × String)
deriving DecidableEq, Repr

namespace Colorway

/-- The text of an entry, if it has one: numbers are written out; null, lists, objects and the empty text
count as left out. -/
def entryText? : Value → Option String
  | .null => none
  | .list _ => none
  | .object _ => none
  | .text s => if s == "" then none else some s
  | v => some (TokenDocument.numberText v)

/-- The entries that a colorway keeps, in order. -/
def entriesOf (m : Members) : List (String × String) :=
  m.filterMap fun (key, v) => (entryText? v).map fun s => (key, s)

/-- The colorways of a list of entries, in order. A colorway without a kept entry is left out. -/
def ofMembers : Members → Except Fault (List Colorway)
  | [] => .ok []
  | (name, entry) :: rest =>
    match entry with
    | .object m => do
      let others ← ofMembers rest
      return if (entriesOf m).isEmpty then others else ⟨name, entriesOf m⟩ :: others
    | _ => .error (TokenDocument.fault (.notColorway name))

/-- The entries that declare the colorways of a document. -/
def sourceOf (doc : Members) : Except Fault Members := do
  let color := (← TokenDocument.section? doc "color" "").getD []
  match ← TokenDocument.section? color "colorways" "color." with
  | some source => return source
  | none => return (← TokenDocument.section? doc "colorways" "").getD []

/-- The colorways of a document. -/
def ofDocument (doc : Value) : Except Fault (List Colorway) :=
  match doc with
  | .object m => do ofMembers (← sourceOf m)
  | _ => .error .noMembers

end Colorway
end DesignKit
