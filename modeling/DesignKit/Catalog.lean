import DesignKit.Catalog.Layout
import DesignKit.FileTree
import DesignKit.Schema.Cache

/-! # Catalogs

A catalog finds components in a list of directories; a component belongs to the first that has a schema file
for it. Schemas are loaded through a cache, which several catalogs may share, so that a schema is read from
its file at most once.

Discovery lists whatever directory holds a schema file of its own name. Looking a component up is stricter:
names that are empty, hold a slash or a backslash or start with a point are never found. -/

namespace DesignKit

/-- The directories in which components are looked for, in order. -/
structure Catalog where
  directories : List Path

/-- A discovered component. -/
structure CatalogEntry where
  name : String
  schema : Schema
  directory : Path
  styles : List String

/-- A schema from the text of its file. The file's own name is the name of the component; a label that is
left out is made from it. -/
def Schema.ofFile (name : String) (path : Path) (text : String) : Except Fault Schema :=
  match Json.read text with
  | .error f => .error (.schema path.print (.unreadable f))
  | .ok (.object m) =>
    ((Schema.ofValue (.object (completed m))).toExcept Schema.kind).mapError fun r => .schema path.print (.invalid r)
  | .ok _ => .error (.schema path.print .notObject)
where
  /-- The members of a schema file with its name, and with a label and a list of fields if it has none. -/
  completed (m : Members) : Members :=
    let named := m.set "name" (.text name)
    let labelled := if (named.get "label").truthy then named else named.set "label" (.text (Text.upperFirst name))
    if (labelled.get "fields").isNull then labelled.set "fields" (.list []) else labelled

namespace Catalog

/-- A name under which a component can be looked up. -/
def isName (name : String) : Bool :=
  name != "" && !name.toList.contains '/' && !name.toList.contains '\\' && name.toList.head? != some '.'

/-- The directory of a component: in the first directory that has a schema file for it. -/
def directory? (c : Catalog) (t : FileTree) (name : String) : Option Path :=
  if isName name then
    (c.directories.map (·.child name)).find? fun directory => t.isFile (Layout.schemaFile directory name)
  else none

/-- The schema file of a component. -/
def schemaPath? (c : Catalog) (t : FileTree) (name : String) : Option Path :=
  (c.directory? t name).map fun directory => Layout.schemaFile directory name

/-- The schema that is in the file of a component now. -/
def schemaNow (c : Catalog) (t : FileTree) (name : String) : Except Fault Schema :=
  match c.schemaPath? t name with
  | none => .error (.noSchema name)
  | some path =>
    match t.read path with
    | .ok text => Schema.ofFile name path text
    | .error f => .error f

/-- The schema of a component: the cached one, or the one in its file, which the cache then keeps. -/
def load (c : Catalog) (t : FileTree) (cache : SchemaCache) (name : String) : Except Fault Schema × SchemaCache :=
  match cache.find? name with
  | some schema => (.ok schema, cache)
  | none =>
    match c.schemaNow t name with
    | .ok schema => (.ok schema, cache.keep name schema)
    | .error f => (.error f, cache)

/-- The schema of a component, empty when there is none. The empty schema is not kept. -/
def get (c : Catalog) (t : FileTree) (cache : SchemaCache) (name : String) : Except Fault Schema × SchemaCache :=
  match c.load t cache name with
  | (.error (.noSchema _), cache) => (.ok (Schema.fallback name), cache)
  | result => result

/-- The names of the discovered components, in ascending order. -/
def names (c : Catalog) (t : FileTree) : List String :=
  (c.directories.flatMap found).eraseDups.mergeSort (· ≤ ·)
where
  /-- The components in a directory. -/
  found (directory : Path) : List String :=
    (t.names directory).filter fun name => t.isFile (Layout.schemaFile (directory.child name) name)

/-- The style variant of a stylesheet, by its file name; a file that is called by the ending alone keeps it. -/
def styleOf? (file : String) : Option String :=
  let cs := file.toList
  let ending := Layout.styleEnding.toList
  if !ending.isSuffixOf cs then none
  else some (if cs == ending then file else String.ofList (cs.take (cs.length - ending.length)))

/-- The style variants of a component, in ascending order. Stylesheets whose names start with an underscore
are no variants. -/
def styles (c : Catalog) (t : FileTree) (name : String) : List String :=
  match c.directory? t name with
  | none => []
  | some directory =>
    let variants := (t.names (Layout.styles directory)).filterMap styleOf?
    (variants.filter fun style => style.toList.head? != some '_').mergeSort (· ≤ ·)

/-- The entries of components by their names. Loading a schema that fails ends the scan; a component that
cannot be looked up is left out. -/
def entries (c : Catalog) (t : FileTree) :
    SchemaCache → List String → Except Fault (List CatalogEntry) × SchemaCache
  | cache, [] => (.ok [], cache)
  | cache, name :: rest =>
    match c.load t cache name with
    | (.error f, cache) => (.error f, cache)
    | (.ok schema, cache) =>
      match entries c t cache rest, c.directory? t name with
      | (.ok others, cache), some directory => (.ok (⟨name, schema, directory, c.styles t name⟩ :: others), cache)
      | (.ok others, cache), none => (.ok others, cache)
      | (.error f, cache), _ => (.error f, cache)

/-- All discovered components. -/
def scan (c : Catalog) (t : FileTree) (cache : SchemaCache) : Except Fault (List CatalogEntry) × SchemaCache :=
  c.entries t cache (c.names t)

end Catalog
end DesignKit
