import DesignKit.FileTree
import DesignKit.Token.Document

/-! # Token files

Token documents and scale schemas read from files. Whatever is wrong with such a file is reported with its
path. -/

namespace DesignKit

/-- A fault of the file system, not of what a file holds. -/
def Fault.isOfFiles : Fault → Bool
  | .noFile => true
  | .isDirectory => true
  | .notDirectory => true
  | .fileExists => true
  | _ => false

/-- The token document in a file. -/
def TokenDocument.load (t : FileTree) (p : Path) : Except Fault Members :=
  match t.read p with
  | .ok text => TokenDocument.parse text (some p.print)
  | .error f =>
    if f.isOfFiles then .error (.tokenDocument (some p.print) (.missing f.message)) else .error f

/-- A fault of a token document, reported with a path. -/
def Fault.inFile (p : Path) : Fault → Fault
  | .tokenDocument _ problem => .tokenDocument (some p.print) problem
  | f => f

/-- The groups of a document that describes a scale schema: its `sizes`, if they are an object, or else the whole. -/
def ScaleSchema.groupsOf (m : Members) : Members :=
  match m.get "sizes" with
  | .object sizes => sizes
  | _ => m

/-- The scale schema in a file. -/
def ScaleSchema.load (t : FileTree) (p : Path) : Except Fault ScaleSchema := do
  let m ← TokenDocument.load t p
  (ScaleSchema.ofValue (.object (groupsOf m))).mapError (·.inFile p)

end DesignKit
