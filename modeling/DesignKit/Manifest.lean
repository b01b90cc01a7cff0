import DesignKit.FileTree
import DesignKit.Render
import DesignKit.Toml.Reader

/-! # Project manifests

A manifest says where the components of a project are, how they are rendered and what its design tokens are
compiled from. Its sections are tables; everything that it leaves out has a default, and a project without a
manifest has the defaults for all of it. Relative paths lead from the directory of the manifest. -/

namespace DesignKit

/-- A project manifest. Members that are only ever printed keep whatever value they are given. -/
structure Manifest where
  /-- The directory from which relative paths lead. -/
  root : Path
  name : Toml.Value
  /-- The component directories in order; without any, the bundled library is used. -/
  paths : List Toml.Value
  defaultStyle : Toml.Value
  policy : Policy
  placeholder : Toml.Value
  tokenPath : Option String
  scaleSchemaPath : Option String
  outputPath : Option String

namespace Manifest

/-- The file name of manifests. -/
def fileName : String := "anticustom.toml"

/-- The manifest of a project that has none. -/
def standard (root : Path) : Manifest where
  root := root
  name := .text "anticustom"
  paths := []
  defaultStyle := .text "plato"
  policy := .refuse
  placeholder := .text "<!-- Template not found -->"
  tokenPath := none
  scaleSchemaPath := none
  outputPath := none

/-- A section, empty when it is absent. -/
def tableOf (data : Toml.Table) (key : String) : Except Fault Toml.Table :=
  match (data.getD key (.table [])).table? with
  | some t => .ok t
  | none => .error .noMembers

/-- The text of a value, unless there is an integer in it that is too long to be printed. -/
def printed (v : Toml.Value) : Except Fault String :=
  if v.isLong then .error .longNumber else .ok v.print

/-- The text under a key; the empty text counts as absent. -/
def textOf (t : Toml.Table) (key : String) : Except Fault (Option String) :=
  match t.get? key with
  | none => .ok none
  | some (.text "") => .ok none
  | some v => some <$> printed v

/-- The policy under a key. -/
def policyOf (p : Path) (t : Toml.Table) : Except Fault Policy :=
  let given := t.getD "on_unknown_child" (.text Policy.refuse.name)
  match given.text?.bind Policy.ofName? with
  | some policy => .ok policy
  | none => do throw (.manifest p.print (.unknownPolicy (← printed given)))

/-- The items under a key of what may be walked over. -/
def itemsOf (t : Toml.Table) (key : String) : Except Fault (List Toml.Value) :=
  match (t.getD key (.list [])).items? with
  | some items => .ok items
  | none => .error .noItems

/-- A manifest from the table of its file, which is at a path, with relative paths leading from a root. -/
def ofTable (p root : Path) (data : Toml.Table) : Except Fault Manifest := do
  let defaults := standard root
  let components ← tableOf data "components"
  let paths ← itemsOf components "paths"
  let render ← tableOf data "render"
  let policy ← policyOf p render
  let tokens ← tableOf data "tokens"
  let tokenPath ← textOf tokens "path"
  let scaleSchemaPath ← textOf tokens "scale_schema"
  let outputPath ← textOf tokens "output"
  let project ← tableOf data "project"
  return {
    root := root
    name := project.getD "name" defaults.name
    paths := paths
    defaultStyle := components.getD "default_style" defaults.defaultStyle
    policy := policy
    placeholder := render.getD "placeholder" defaults.placeholder
    tokenPath := tokenPath
    scaleSchemaPath := scaleSchemaPath
    outputPath := outputPath }

/-- How it is told that a text was refused. -/
def faultOf (p : Path) : Toml.Failure → Fault
  | .malformed => .manifest p.print .unreadable
  | .longNumber => .longNumber

/-- The manifest in a file. -/
def load (t : FileTree) (p : Path) : Except Fault Manifest := do
  let text ← t.read p
  match Toml.read text with
  | .ok data => ofTable p (t.resolve p.parent) data
  | .error failure => throw (faultOf p failure)

/-- The manifest of a directory, that of a project without manifest when there is no such file. -/
def find (t : FileTree) (directory : Path) : Except Fault Manifest :=
  let root := t.resolve directory
  let p := root.child fileName
  if t.isFile p then load t p else .ok (standard root)

/-- A path of the manifest, leading from its root. -/
def resolve (m : Manifest) (written : String) : Path :=
  m.root.join written

/-- The component directories. Each of them must be written as a text. -/
def componentDirectories (m : Manifest) : Except Fault (List Path) :=
  m.paths.mapM fun
    | .text s => .ok (m.resolve s)
    | _ => .error .notText

end Manifest
end DesignKit
