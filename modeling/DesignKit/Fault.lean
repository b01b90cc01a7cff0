import DesignKit.Checked.Rejection
import DesignKit.Json.Reader
import DesignKit.Path

/-! # Faults

Every way in which an operation can have no answer, each by its cause. The faults of schemas, token
documents and manifests carry the file in which they lie; the wording of all faults is in this file. -/

namespace DesignKit

/-- What makes a component schema unusable. -/
inductive SchemaProblem where
  | unreadable (fault : Json.Fault)
  | notObject
  | invalid (rejection : Rejection)

/-- A problem of a schema without the details of a rejection. -/
def SchemaProblem.summary : SchemaProblem → String
  | unreadable fault => "Invalid JSON: " ++ fault.message
  | notObject => "Schema must be a JSON object"
  | invalid _ => "Invalid schema"

/-- A problem of a schema in full. -/
def SchemaProblem.message (p : SchemaProblem) : String :=
  match p with
  | invalid r => p.summary ++ ": " ++ r.message
  | _ => p.summary

/-- What makes a token document or a scale schema unusable. -/
inductive TokenProblem where
  | missing (reason : String)
  | unreadable (fault : Json.Fault)
  | notJsonObject
  | notDocument
  | notObject (place : String)
  | notSections
  | notNumber (place : String) (value : Value)
  | notColorway (name : String)
  | invalidScaleSchema (rejection : Rejection)

/-- A problem of a token document without the details of a rejection. -/
def TokenProblem.summary : TokenProblem → String
  | missing reason => "Cannot read token document: " ++ reason
  | unreadable fault => "Invalid JSON: " ++ fault.message
  | notJsonObject => "Token document must be a JSON object"
  | notDocument => "Token document must be an object"
  | notObject place => "'" ++ place ++ "' must be an object"
  | notSections => "'color.sections' must be an object or a list"
  | notNumber place value => "'" ++ place ++ "' must be a number, got " ++ value.inner
  | notColorway name => "Colorway '" ++ name ++ "' must be an object"
  | invalidScaleSchema _ => "Invalid scale schema"

/-- A problem of a token document in full. -/
def TokenProblem.message (p : TokenProblem) : String :=
  match p with
  | invalidScaleSchema r => p.summary ++ ": " ++ r.message
  | _ => p.summary

/-- What makes a project manifest unusable. -/
inductive ManifestProblem where
  | unreadable
  | unknownPolicy (given : String)

def ManifestProblem.message : ManifestProblem → String
  | unreadable => "Invalid TOML"
  | unknownPolicy given => "render.on_unknown_child must be one of raise, skip, got '" ++ given ++ "'"

/-- Why an operation has no answer. -/
inductive Fault where
  /-- The members of a value were asked for that is not an object. -/
  | noMembers
  /-- A template asked for the members of a value that is not an object. -/
  | noMembersInTemplate
  /-- A value that has no items was walked over. -/
  | noItems
  /-- A list or an object was used as a key. -/
  | notKey
  /-- A value that is not a text was joined to texts or looked for in one. -/
  | notText
  /-- Arithmetic met a value that is not a number. -/
  | notNumber
  /-- A negative base was raised to a fraction. -/
  | complexPower
  /-- Entries were read from items that are not pairs. -/
  | notPairs
  /-- A NaN was rounded to a whole number. -/
  | roundedNaN
  /-- An integer has more decimal digits than are read or printed. -/
  | longNumber
  /-- The policy for unknown children is neither of the two. -/
  | unknownPolicy
  /-- A number is beyond the range of doubles, or an infinity was rounded to a whole number. -/
  | overflow
  /-- Zero was raised to a negative power, or divided by. -/
  | zeroDivision
  /-- A prop that must be there is absent. -/
  | missingProp (key : String)
  /-- Components are nested beyond the limit. -/
  | nestedTooDeep
  /-- A styled text ends a style that has not begun. -/
  | unmatchedTag
  /-- The values of an action in a styled text cannot be read. -/
  | badAction
  /-- A part of a colour in the name of a style has no digit. -/
  | noColorPart
  /-- A file holds bytes that are not UTF-8. -/
  | notUtf8
  /-- There is no file at a path. -/
  | noFile
  /-- There is a directory at a path where a file is needed. -/
  | isDirectory
  /-- A path leads through a file. -/
  | notDirectory
  /-- There is a file at a path where a directory is needed. -/
  | fileExists
  /-- A record does not have the shape it must have. -/
  | invalid (rejection : Rejection)
  /-- No schema exists for a component name. -/
  | noSchema (name : String)
  /-- No render function is registered for a component type. -/
  | unknownComponent (name : String)
  | schema (path : String) (problem : SchemaProblem)
  | tokenDocument (path : Option String) (problem : TokenProblem)
  | manifest (path : String) (problem : ManifestProblem)

namespace Fault

/-- The kind of a fault, as reports name it. -/
def kind : Fault → String
  | noMembers => "AttributeError"
  | noMembersInTemplate => "UndefinedError"
  | noItems => "TypeError"
  | notKey => "TypeError"
  | notText => "TypeError"
  | notNumber => "TypeError"
  | complexPower => "TypeError"
  | notPairs => "ValueError"
  | roundedNaN => "ValueError"
  | longNumber => "ValueError"
  | unknownPolicy => "ValueError"
  | overflow => "OverflowError"
  | zeroDivision => "ZeroDivisionError"
  | missingProp _ => "KeyError"
  | nestedTooDeep => "RecursionError"
  | unmatchedTag => "MarkupError"
  | badAction => "MarkupError"
  | noColorPart => "ValueError"
  | notUtf8 => "UnicodeDecodeError"
  | noFile => "FileNotFoundError"
  | isDirectory => "IsADirectoryError"
  | notDirectory => "NotADirectoryError"
  | fileExists => "FileExistsError"
  | invalid _ => "ValidationError"
  | noSchema _ => "SchemaNotFoundError"
  | unknownComponent _ => "ComponentNotFoundError"
  | schema _ _ => "SchemaError"
  | tokenDocument _ _ => "TokenDocumentError"
  | manifest _ _ => "ManifestError"

/-- The fault is one of the library's own, which are reported by their message. -/
def isReported : Fault → Bool
  | noSchema _ => true
  | unknownComponent _ => true
  | schema _ _ => true
  | tokenDocument _ _ => true
  | manifest _ _ => true
  | _ => false

/-- A message after the file that it is about. -/
def located (path : Option String) (message : String) : String :=
  match path with
  | some p => p ++ ": " ++ message
  | none => message

/-- The text of a fault. -/
def message : Fault → String
  | noMembers => "the value has no members"
  | noMembersInTemplate => "the value has no members"
  | noItems => "the value has no items"
  | notKey => "a list or an object cannot be a key"
  | notText => "the value is not a text"
  | notNumber => "the value is not a number"
  | complexPower => "the power is not a real number"
  | notPairs => "the items are not pairs of key and value"
  | roundedNaN => "cannot convert float NaN to integer"
  | longNumber => "the integer has too many digits"
  | unknownPolicy => "on_unknown_child must be one of raise, skip"
  | overflow => "the number is out of range"
  | zeroDivision => "division by zero"
  | missingProp key => Text.quoted key
  | nestedTooDeep => "components are nested too deep"
  | unmatchedTag => "the text ends a style that has not begun"
  | badAction => "the values of an action cannot be read"
  | noColorPart => "a part of a colour has no digit"
  | notUtf8 => "the file is not UTF-8"
  | noFile => "No such file or directory"
  | isDirectory => "Is a directory"
  | notDirectory => "Not a directory"
  | fileExists => "File exists"
  | invalid rejection => rejection.message
  | noSchema name => "No schema for component '" ++ name ++ "'"
  | unknownComponent name => "Unknown component: " ++ name
  | schema path problem => located (some path) problem.message
  | tokenDocument path problem => located path problem.message
  | manifest path problem => located (some path) problem.message

/-- The problems of the record that a fault is about. A scale schema that is reported with its file has
passed on its message only. -/
def problems : Fault → List Problem
  | invalid r => r.problems
  | schema _ (.invalid r) => r.problems
  | tokenDocument none (.invalidScaleSchema r) => r.problems
  | _ => []

/-- The text of a fault, cut where the details of its problems follow. -/
def summary (f : Fault) : String :=
  match f with
  | schema path (.invalid r) => located (some path) (SchemaProblem.invalid r).summary
  | tokenDocument none (.invalidScaleSchema r) => (TokenProblem.invalidScaleSchema r).summary
  | _ => f.message

end Fault

/-- The families of the library's own faults. -/
inductive FaultFamily where
  | any
  | notFound
  | schemaNotFound
  | componentNotFound
  | schema
  | tokenDocument
  | manifest
deriving DecidableEq, Repr

namespace FaultFamily

/-- The name of a family. -/
def name : FaultFamily → String
  | any => "AnticustomError"
  | notFound => "NotFoundError"
  | schemaNotFound => "SchemaNotFoundError"
  | componentNotFound => "ComponentNotFoundError"
  | schema => "SchemaError"
  | tokenDocument => "TokenDocumentError"
  | manifest => "ManifestError"

/-- All families. -/
def all : List FaultFamily :=
  [any, notFound, schemaNotFound, componentNotFound, schema, tokenDocument, manifest]

/-- A family and those that contain it, from the narrowest to the widest. -/
def lineage : FaultFamily → List FaultFamily
  | any => [any]
  | notFound => [notFound, any]
  | schemaNotFound => [schemaNotFound, notFound, any]
  | componentNotFound => [componentNotFound, notFound, any]
  | schema => [schema, any]
  | tokenDocument => [tokenDocument, any]
  | manifest => [manifest, any]

end FaultFamily

/-- A fault of the library as it is reported: its family, what was not found, the message, and the file
that it is about. -/
structure Report where
  family : FaultFamily
  subject : Option String
  message : String
  path : Option Path

namespace Report

/-- The report of a family about a text: the name of what was not found, or the message itself. An unknown
component is not about a file, so it takes no path. -/
def make (family : FaultFamily) (text : String) (path : Option Path) : Except Fault Report :=
  match family, path with
  | .schemaNotFound, path => .ok ⟨family, some text, (Fault.noSchema text).message, path⟩
  | .componentNotFound, none => .ok ⟨family, some text, (Fault.unknownComponent text).message, none⟩
  | .componentNotFound, some _ => .error .notText
  | family, path => .ok ⟨family, none, text, path⟩

/-- The message after the path. -/
def text (r : Report) : String :=
  Fault.located (r.path.map (·.print)) r.message

end Report
end DesignKit
