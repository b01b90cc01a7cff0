import DesignKit.Checked
import DesignKit.Value.Text

/-! # Rejections

A rejection says why a value did not become a record: the kind of the record and every problem of the value,
in the order in which the record's members are declared. Its text has a paragraph for each problem: where
it lies, what was expected and what was given, and the page that explains the code. -/

namespace DesignKit

/-- Everything that is wrong with a value that was to become a record of a kind. -/
structure Rejection where
  kind : String
  problems : List Problem

/-- What was expected in the place of a mismatch. -/
def Mismatch.expectation : Mismatch → String
  | missing => "Field required"
  | notText => "Input should be a valid string"
  | notList => "Input should be a valid list"
  | notObject => "Input should be a valid dictionary"
  | notRecord kind => "Input should be a valid dictionary or instance of " ++ kind
  | emptyName => "Value error, Field name must not be empty"
  | notNumber => "Input should be a valid number"
  | unreadableNumber => "Input should be a valid number, unable to parse string as a number"

/-- The kind of a value, as rejections name it. -/
def Value.kindName : Value → String
  | null => "NoneType"
  | bool _ => "bool"
  | int _ => "int"
  | float _ => "float"
  | text _ => "str"
  | list _ => "list"
  | object _ => "dict"

/-- The characters at the front of a text that fit into a number of bytes. -/
def fitting : Nat → List Char → List Char
  | _, [] => []
  | room, c :: rest => if c.utf8Size ≤ room then c :: fitting (room - c.utf8Size) rest else []

/-- A text of more than fifty bytes is cut in the middle. -/
def shortened (s : String) : String :=
  if s.utf8ByteSize ≤ 50 then s
  else String.ofList (fitting 25 s.toList) ++ "..." ++ String.ofList (fitting 24 s.toList.reverse).reverse

/-- Host and version of the pages that explain the codes. -/
def Rejection.site : String := "errors.pydantic.dev/2.14"

/-- The page that explains a code. -/
def Mismatch.page (m : Mismatch) : String :=
  "https://" ++ Rejection.site ++ "/v/" ++ m.code

/-- The paragraph of a problem. A problem with the whole value has no place to name. -/
def Problem.paragraph (p : Problem) : String :=
  let place := if p.place.isEmpty then "" else "\n" ++ ".".intercalate p.place
  place ++ "\n  " ++ p.mismatch.expectation ++ " [type=" ++ p.mismatch.code ++ ", input_value=" ++
    shortened p.given.inner ++ ", input_type=" ++ p.given.kindName ++ "]\n    For further information visit " ++
    p.mismatch.page

/-- The text of a rejection. -/
def Rejection.message (r : Rejection) : String :=
  let count := Number.intText r.problems.length
  let noun := if r.problems.length == 1 then " validation error for " else " validation errors for "
  count ++ noun ++ r.kind ++ String.join (r.problems.map Problem.paragraph)

/-- A reading of a record of a kind as a result. -/
def Checked.toExcept {α : Type} (kind : String) : Checked α → Except Rejection α
  | ok a => .ok a
  | invalid ps => .error ⟨kind, ps⟩

end DesignKit
