import DesignKit.Fault
import DesignKit.Schema

/-! # Props

The prop bag of a component is put together from layers, the earlier ones winning: what the caller gives,
what the parent's slot declares for the child at its place, and the defaults of the component's own schema.

Callers may give props as an object or as a list of pairs. -/

namespace DesignKit

/-- Key and value of every entry, in order; an equal key writes its value into the place of the first. -/
abbrev Entries := List (Value × Value)

namespace Entries

/-- Gives a key a value: in its place when an equal key is present, at the end otherwise. -/
def set : Entries → Value → Value → Entries
  | [], key, v => [(key, v)]
  | (k, old) :: rest, key, v => if k.same key then (k, v) :: rest else (k, old) :: set rest key v

/-- The key and the value that an item of two gives: the two items of a list, the two keys of an object or
the two characters of a text. -/
def pair : Value → Except Fault (Value × Value)
  | v =>
    match v.items? with
    | some [key, value] => if key.isKey then .ok (key, value) else .error .notKey
    | some _ => .error .notPairs
    | none => .error .noItems

/-- The entries given by pairs, written one after the other. -/
def ofPairs : Entries → List Value → Except Fault Entries
  | done, [] => .ok done
  | done, v :: rest =>
    match pair v with
    | .ok (key, value) => ofPairs (done.set key value) rest
    | .error f => .error f

/-- The entries of an object, or those given by pairs. -/
def ofValue : Value → Except Fault Entries
  | .object members => .ok (members.map fun (key, v) => (.text key, v))
  | v =>
    match v.items? with
    | some items => ofPairs [] items
    | none => .error .noItems

/-- The name under which a key that is not a text is written in an object. -/
def keyName : Value → String
  | .text s => s
  | .bool b => if b then "true" else "false"
  | .null => "null"
  | v => v.inner

/-- The entries as members of an object. -/
def toMembers (entries : Entries) : Members :=
  Members.ofEntries (entries.map fun (key, v) => (keyName key, v))

/-- The entries as members of an object, all of whose keys must be texts. -/
def toMembers? (place : String) (entries : Entries) : Except (List Problem) Members :=
  let problems := entries.filterMap fun (key, _) =>
    match key with
    | .text _ => none
    | .bool b => some (Problem.mk [place, if b then "1" else "0", "[key]"] .notText key)
    | key => some (Problem.mk [place, key.inner, "[key]"] .notText key)
  if problems.isEmpty then .ok entries.toMembers else .error problems

end Entries

/-- The prop bag given by a value. -/
def Members.ofValue (v : Value) : Except Fault Members :=
  Entries.toMembers <$> Entries.ofValue v

/-- The prop bag given by a value that may be absent: a false value gives no props. -/
def Members.ofOptional (v : Value) : Except Fault Members :=
  Members.ofValue (v.orElse (.object []))

namespace Schema

/-- Props with the default of every declared field that they lack. A field declared again after its name
is present adds nothing. -/
def fill (s : Schema) (props : Members) : Members :=
  s.fields.foldl (fun m f => if m.has f.name then m else m ++ [(f.name, f.default)]) props

/-- Props of the child at an index under the parent's slot: the slot's defaults with the child's own props
written onto them, or the props alone when there is no slot. -/
def place (s : Schema) (index : Int) (props : Members) : Members :=
  match s.slot? index with
  | some slot => slot.defaults.update props
  | none => props

/-- Props of any kind under the parent's slot. Only an object can be written onto the defaults of a slot;
without a slot the props stay as they are. -/
def placeValue (s : Schema) (index : Int) (props : Value) : Except Fault Value :=
  match s.slot? index, props with
  | some slot, .object m => .ok (.object (slot.defaults.update m))
  | some _, _ => .error .noItems
  | none, props => .ok props

end Schema
end DesignKit
