import DesignKit.Fault
import DesignKit.Text.LineBreak

/-! # File trees

A file tree holds the directories and files below the anchors, each under the place where it is. A place is
a path that starts at an anchor and has no double dot; the anchors themselves are directories, and the working
directory is a directory below the project's root.

A path is followed name by name. Each name is looked for in a directory, so that a path through a file or
through a place where nothing is leads nowhere, even if a double dot follows. What lies outside of the project
cannot be seen. -/

namespace DesignKit

/-- What is at a place. -/
inductive FileNode where
  | directory
  | file (bytes : ByteArray)

/-- A file that holds a text. -/
def FileNode.ofText (s : String) : FileNode := .file s.toUTF8

/-- Directories and files by their places, and the names that lead from the project's root to the working
directory. -/
structure FileTree where
  working : List String
  nodes : List (Path × FileNode)

namespace FileTree

/-- The tree of a working directory without any file. -/
def empty (working : List String) : FileTree := ⟨working, []⟩

/-- What is at a place. -/
def node? (t : FileTree) (place : Path) : Option FileNode :=
  if place.names.isEmpty then some .directory else t.nodes.lookup place

/-- The directory around a place; outside of the file system's root there is only the root again. -/
def above (place : Path) : Except Fault Path :=
  match place.anchor with
  | .root => .ok place.parent
  | _ => if place.names.isEmpty then .error .noFile else .ok place.parent

/-- The place that names lead to from a place. -/
def follow (t : FileTree) : Path → List String → Except Fault Path
  | here, [] => .ok here
  | here, name :: rest =>
    match t.node? here with
    | some .directory =>
      if name == ".." then
        match above here with
        | .ok there => follow t there rest
        | .error f => .error f
      else follow t (here.child name) rest
    | some (.file _) => .error .notDirectory
    | none => .error .noFile

/-- The place that a path leads to, whether something is there or not. -/
def locate (t : FileTree) (p : Path) : Except Fault Path :=
  match p.anchor with
  | .working => t.follow ⟨.project, []⟩ (t.working ++ p.names)
  | anchor => t.follow ⟨anchor, []⟩ p.names

/-- What a path leads to. -/
def find? (t : FileTree) (p : Path) : Option FileNode :=
  match t.locate p with
  | .ok place => t.node? place
  | .error _ => none

/-- A path leads to a file. -/
def isFile (t : FileTree) (p : Path) : Bool :=
  match t.find? p with
  | some (.file _) => true
  | _ => false

/-- A path leads to a directory. -/
def isDirectory (t : FileTree) (p : Path) : Bool :=
  match t.find? p with
  | some .directory => true
  | _ => false

/-- The name of a place that lies directly in a directory. -/
def nameIn? (directory place : Path) : Option String :=
  if place.anchor == directory.anchor && place.names.dropLast == directory.names then place.names.getLast? else none

/-- The names in the directory that a path leads to. -/
def names (t : FileTree) (p : Path) : List String :=
  match t.locate p with
  | .ok place => t.nodes.filterMap fun (q, _) => nameIn? place q
  | .error _ => []

/-- The text of a file, its line breaks unified. -/
def decode (bytes : ByteArray) : Except Fault String :=
  match String.fromUTF8? bytes with
  | some s => .ok (String.ofList (Text.unifyBreaks s.toList))
  | none => .error .notUtf8

/-- The text of the file that a path leads to. -/
def read (t : FileTree) (p : Path) : Except Fault String :=
  match t.locate p with
  | .error f => .error f
  | .ok place =>
    match t.node? place with
    | some (.file bytes) => decode bytes
    | some .directory => .error .isDirectory
    | none => .error .noFile

/-- Puts a node at a place, in the stead of what was there. -/
def put (t : FileTree) (place : Path) (node : FileNode) : FileTree :=
  { t with nodes := t.nodes.filter (fun (q, _) => q != place) ++ [(place, node)] }

/-- Writes a text into the file that a path leads to; its directory must exist. -/
def write (t : FileTree) (p : Path) (s : String) : Except Fault FileTree :=
  match t.locate p with
  | .error f => .error f
  | .ok place =>
    match t.node? place with
    | some .directory => .error .isDirectory
    | _ => .ok (t.put place (.ofText s))

/-- Makes a directory inside an existing one. -/
def makeDirectory (t : FileTree) (p : Path) : Except Fault FileTree :=
  match t.locate p with
  | .error f => .error f
  | .ok place =>
    match t.node? place with
    | some .directory => .ok t
    | some (.file _) => .error .fileExists
    | none => .ok (t.put place .directory)

/-- Makes the directory of a path given by its names from the last to the first, and those around it that do
not exist. Directories that were made stay when a later one cannot be. -/
def makeDirectoriesTo (t : FileTree) (anchor : Anchor) : List String → Except Fault Unit × FileTree
  | [] => (.ok (), t)
  | name :: outer =>
    let p : Path := ⟨anchor, (name :: outer).reverse⟩
    match t.makeDirectory p with
    | .ok made => (.ok (), made)
    | .error .noFile =>
      match makeDirectoriesTo t anchor outer with
      | (.error f, made) => (.error f, made)
      | (.ok (), made) =>
        match made.makeDirectory p with
        | .ok made => (.ok (), made)
        | .error f => (.error f, made)
    | .error f => (.error f, t)

/-- Makes the directory of a path and those around it that do not exist. -/
def makeDirectories (t : FileTree) (p : Path) : Except Fault Unit × FileTree :=
  t.makeDirectoriesTo p.anchor p.names.reverse

/-- Removes the file or the whole directory that a path leads to. -/
def remove (t : FileTree) (p : Path) : FileTree :=
  match t.locate p with
  | .ok place =>
    { t with nodes := t.nodes.filter fun (q, _) => !(q.anchor == place.anchor && place.names.isPrefixOf q.names) }
  | .error _ => t

/-- Puts a node at a path, in directories that are made where they do not exist. -/
def add (t : FileTree) (p : Path) (node : FileNode) : Except Fault FileTree := do
  let (made, t) := t.makeDirectories p.parent
  made
  return t.put (← t.locate p) node

/-- A path from an anchor without double dots, each of them taken together with the name before it. It is the
place that the path leads to, if it leads anywhere. -/
def resolve (t : FileTree) (p : Path) : Path :=
  let names := p.names.foldl (fun done name => if name == ".." then done.dropLast else done ++ [name])
  match p.anchor with
  | .working => ⟨.project, names t.working⟩
  | anchor => ⟨anchor, names []⟩

end FileTree
end DesignKit
