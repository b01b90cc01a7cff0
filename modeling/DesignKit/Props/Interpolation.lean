import DesignKit.Number.Text
import DesignKit.Value

/-! # Interpolation

A placeholder is a path in braces: one or more letters, digits, underscores and dots. Where its path leads
to a scalar in the context the placeholder gives way to the scalar's text; where it does not the placeholder
stays as it is. All placeholders of a template are replaced at once: what was put in is not scanned again. -/

namespace DesignKit
namespace Interpolation
open Number

/-- A character that may stand in a placeholder. -/
def isPathChar (c : Char) : Bool :=
  ('a' ≤ c && c ≤ 'z') || ('A' ≤ c && c ≤ 'Z') || ('0' ≤ c && c ≤ '9') || c == '_' || c == '.'

/-- The opening and closing brace of a placeholder. -/
def opening : Char := '\x7b'
def closing : Char := '\x7d'

/-- The index that a segment writes, when it consists of digits. -/
def index? (segment : List Char) : Option Nat :=
  if segment.all Char.isDigit && !segment.isEmpty then
    some (segment.foldl (fun n c => n * 10 + (c.toNat - '0'.toNat)) 0)
  else none

/-- One step along a path: to the member of an object or to the item of a list. -/
def step? (current : Value) (segment : List Char) : Option Value :=
  match current with
  | .object members => members.lookup (String.ofList segment)
  | .list items => (index? segment).bind (items[·]?)
  | _ => none

/-- The value at the end of a path. -/
def walk? (context : Value) : List (List Char) → Option Value
  | [] => some context
  | segment :: rest => (step? context segment).bind (walk? · rest)

/-- The text of a scalar: whole doubles without a point. Null, lists and objects have none. -/
def scalarText? : Value → Option (List Char)
  | .bool b => some (if b then "true".toList else "false".toList)
  | .int n => some (intText n).toList
  | .float x =>
    match whole? x with
    | some n => some (intText n).toList
    | none => some (FloatStyle.plain.text x).toList
  | .text s => some s.toList
  | _ => none

/-- The text that a path stands for: that of the scalar at its end, if there is one and no segment of the
path is empty. -/
def resolve? (context : Value) (path : List Char) : Option (List Char) :=
  let segments := path.splitOn '.'
  if segments.any List.isEmpty then none else (walk? context segments).bind scalarText?

/-- What stands in the place of a placeholder. -/
def replacement (context : Value) (path : List Char) : List Char :=
  (resolve? context path).getD (opening :: path ++ [closing])

/-- The path of the placeholder whose opening brace is followed by a text, and what follows the
placeholder. -/
def placeholder? (rest : List Char) : Option (List Char × List Char) :=
  match rest.dropWhile isPathChar with
  | c :: after =>
    if c = closing ∧ rest.takeWhile isPathChar ≠ [] then some (rest.takeWhile isPathChar, after) else none
  | [] => none

theorem placeholder?_length {rest path after : List Char} (h : placeholder? rest = some (path, after)) :
    after.length < rest.length := by
  unfold placeholder? at h
  have hl := (List.dropWhile_suffix isPathChar (l := rest)).length_le
  split at h
  · rename_i c tail heq
    split at h
    · cases h
      rw [heq, List.length_cons] at hl
      omega
    · cases h
  · cases h

/-- A template with its placeholders replaced. -/
def interpolateChars (context : Value) : List Char → List Char
  | [] => []
  | c :: rest =>
    if c = opening then
      match _h : placeholder? rest with
      | some (path, after) => replacement context path ++ interpolateChars context after
      | none => c :: interpolateChars context rest
    else c :: interpolateChars context rest
termination_by cs => cs.length
decreasing_by
  · have := placeholder?_length _h
    simp only [List.length_cons]
    omega
  · simp
  · simp

/-- A template with its placeholders replaced. -/
def interpolate (context : Value) (template : String) : String :=
  String.ofList (interpolateChars context template.toList)

end Interpolation

namespace Value

mutual

/-- A value with the placeholders in all its texts replaced, at every depth. -/
def interpolate (context : Value) : Value → Value
  | text s => text (Interpolation.interpolate context s)
  | list items => list (interpolateItems context items)
  | object members => object (interpolateMembers context members)
  | v => v

def interpolateItems (context : Value) : List Value → List Value
  | [] => []
  | v :: rest => interpolate context v :: interpolateItems context rest

def interpolateMembers (context : Value) : List (String × Value) → List (String × Value)
  | [] => []
  | (key, v) :: rest => (key, interpolate context v) :: interpolateMembers context rest

end
end Value

/-- A prop bag with the placeholders in all its texts replaced. -/
def Members.interpolate (context : Value) (props : Members) : Members :=
  Value.interpolateMembers context props

end DesignKit
