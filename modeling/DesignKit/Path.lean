/-! # Paths

A path is a list of names from an anchor: the working directory, the project's root, the root of the file
system or the bundled library. Empty names and single dots are dropped when a path is read; a double dot
stays, for what it means depends on the files. -/

namespace DesignKit

/-- Where a path starts. -/
inductive Anchor where
  | working
  | project
  | root
  | bundled
deriving DecidableEq, Repr

/-- The names that lead from an anchor to a place. -/
structure Path where
  anchor : Anchor
  names : List String
deriving DecidableEq, Repr

namespace Path

/-- The names in a written path. -/
def namesOf (s : String) : List String :=
  ((s.toList.splitOn '/').map String.ofList).filter fun name => name != "" && name != "."

/-- A written path: from the root when it starts with a slash, from the working directory otherwise. -/
def ofText (s : String) : Path :=
  ⟨if s.toList.head? == some '/' then .root else .working, namesOf s⟩

/-- A written path starts at the root. -/
def isAbsolute (s : String) : Bool :=
  s.toList.head? == some '/'

/-- A written path followed from another: an absolute one replaces it. -/
def join (p : Path) (s : String) : Path :=
  if isAbsolute s then ofText s else ⟨p.anchor, p.names ++ namesOf s⟩

/-- One name further. -/
def child (p : Path) (name : String) : Path :=
  ⟨p.anchor, p.names ++ [name]⟩

/-- The place one name back; an anchor has none and stays. -/
def parent (p : Path) : Path :=
  ⟨p.anchor, p.names.dropLast⟩

/-- How a path is shown. Places in the project are shown from its root. -/
def print (p : Path) : String :=
  let joined := "/".intercalate p.names
  match p.anchor with
  | .working => if p.names.isEmpty then "." else joined
  | .project => if p.names.isEmpty then "." else joined
  | .root => "/" ++ joined
  | .bundled => if p.names.isEmpty then "<bundled>" else "<bundled>/" ++ joined

end Path
end DesignKit
