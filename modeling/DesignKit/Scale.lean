import DesignKit.Checked
import DesignKit.Number.Arithmetic

/-! # Scales

A geometric scale has a base size and a factor; a position on it is an exponent, and the size at a position
is the base times that power of the factor, rounded. A scale schema names the positions of the spacing, text
and heading scales. -/

namespace DesignKit
open Number

/-- A named position on a scale, with the name of its heading variable where it has one. -/
structure ScalePosition where
  name : String
  position : Float
  cssKey : Option String

/-- A geometric scale. -/
structure Scale where
  base : Float
  factor : Float

/-- The named positions of each scale, in order. -/
structure ScaleSchema where
  spacing : List ScalePosition
  text : List ScalePosition
  headings : List ScalePosition

/-- A member of a record that holds a double: numbers, truth values and texts that write a number. -/
def Checked.double : Value → Checked Float
  | .float x => .ok x
  | .text s =>
    match recordFloat? s with
    | some x => .ok x
    | none => .fail .unreadableNumber (.text s)
  | v =>
    match v.int? with
    | some n =>
      match ofInt? n with
      | some x => .ok x
      | none => .fail .notNumber v
    | none => .fail .notNumber v
where
  /-- The number that a text in a record writes: underscores may stand singly within it, but then it may not
  be surrounded by white space. -/
  recordFloat? (s : String) : Option Float :=
    match signedFloat? (Text.trimBoth Text.isSpace s.toList) with
    | some x => some x
    | none =>
      let cs := s.toList
      if cs.head? == some '_' || cs.getLast? == some '_' || doubled cs then none
      else signedFloat? (cs.filter (· != '_'))
  /-- Two underscores in a row. -/
  doubled : List Char → Bool
    | c :: next :: rest => (c == '_' && next == '_') || doubled (next :: rest)
    | _ => false

/-- A member under the first of two names that is present, or a default. -/
def Checked.either {α : Type} (m : Members) (key alternative : String) (default : α) (read : Value → Checked α) :
    Checked α :=
  if m.has key then optional m key default read else optional m alternative default read

/-- A position from an object. -/
def ScalePosition.ofMembers (m : Members) : Checked ScalePosition :=
  ScalePosition.mk <$> Checked.required m "name" Checked.text <*>
    Checked.optional m "position" 0.0 Checked.double <*>
    Checked.either m "cssKey" "css_key" none Checked.textOrNull

/-- A scale from an object. -/
def Scale.ofMembers (m : Members) : Checked Scale :=
  Scale.mk <$> Checked.either m "baseSize" "base_size" 16.0 Checked.double <*>
    Checked.optional m "scale" 1.5 Checked.double

namespace ScaleSchema

/-- A position without a name for its heading variable. -/
def plain (name : String) (position : Float) : ScalePosition := ⟨name, position, none⟩

/-- The positions that documents are compiled with unless they are given others. -/
def standard : ScaleSchema where
  spacing := [plain "xxs" (-3.0), plain "xs" (-2.0), plain "s" (-1.0), plain "m" 0.0, plain "l" 1.0,
    plain "xl" 2.0, plain "xxl" 3.0]
  text := [plain "xs" (-2.0), plain "s" (-1.0), plain "m" 0.0, plain "l" 1.0, plain "xl" 2.0]
  headings := [⟨"h1", 5.0, some "heading-1"⟩, ⟨"h2", 4.0, some "heading-2"⟩, ⟨"h3", 3.0, some "heading-3"⟩,
    ⟨"h4", 2.0, some "heading-4"⟩, ⟨"h5", 1.0, some "heading-5"⟩, ⟨"h6", 0.0, some "heading-6"⟩]

/-- The position given by an item: its own members win over the name that it stands under. -/
def positionOf (group name : String) (item : Value) : Except Fault ScalePosition :=
  match item with
  | .object m =>
    match (ScalePosition.ofMembers (Members.update [("name", .text name)] m)).toExcept "ScalePosition" with
    | .ok p => .ok p
    | .error r => .error (.tokenDocument none (.invalidScaleSchema r))
  | _ => .error (.tokenDocument none (.notObject (group ++ ".items." ++ name)))

/-- The positions of a group, one for each item in order; none when the group is absent. -/
def positions (data : Members) (group : String) : Except Fault (List ScalePosition) :=
  match data.get group with
  | .null => .ok []
  | v =>
    match v.members?.bind fun m => (m.get "items").members? with
    | some items => items.mapM fun (name, item) => positionOf group name item
    | none => .error (.tokenDocument none (.notObject (group ++ ".items")))

/-- The given positions, or others when there are none. -/
def orElse (given others : List ScalePosition) : List ScalePosition :=
  if given.isEmpty then others else given

/-- A scale schema from data with a group for each scale; a group without items leaves the standard one. -/
def ofValue (data : Value) : Except Fault ScaleSchema :=
  match data with
  | .object m => do
    let spacing ← positions m "spacingSizes"
    let text ← positions m "textSizes"
    let headings ← positions m "headingLevels"
    return ⟨orElse spacing standard.spacing, orElse text standard.text, orElse headings standard.headings⟩
  | _ => .error .noMembers

end ScaleSchema

/-- The value that overrides the size at a position: that of an entry that is switched on. -/
def override? (overrides : Members) (name : String) : Option Value :=
  match (overrides.get name).members? with
  | some entry =>
    if (entry.get "enabled").truthy && !(entry.get "value").isNull then some (entry.get "value") else none
  | none => none

/-- The size at a position, rounded to a number of places. -/
def Scale.sizeAt (s : Scale) (position : Float) (digits : Int) : Except Fault Float := do
  let factor ← power s.factor position
  roundHalfUp (.float (s.base * factor)) digits

/-- The value of every position: the override's as it is, or the size on the scale. -/
def Scale.sizes (s : Scale) (overrides : Members) (digits : Int) (positions : List ScalePosition) :
    Except Fault Members := do
  let entries ← positions.mapM fun p => do
    match override? overrides p.name with
    | some v => return (p.name, v)
    | none => return (p.name, Value.float (← s.sizeAt p.position digits))
  return Members.ofEntries entries

end DesignKit
