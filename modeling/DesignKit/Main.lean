import DesignKit.Cli

/-! The program: it reads the files below the working directory, runs the command line on them, writes the files
that have changed and reports. -/

namespace DesignKit

/-- The place of a directory entry, found below the place of the directory. -/
partial def readNodes (directory : Path) (entry : IO.FS.DirEntry) : IO (List (Path × FileNode)) := do
  let place := directory.child entry.fileName
  if ← entry.path.isDir then
    let inside ← (← entry.path.readDir).toList.mapM (readNodes place)
    return (place, .directory) :: inside.flatten
  else return [(place, .file (← IO.FS.readBinFile entry.path))]

/-- The files below the working directory, and the bundled library. -/
def readTree : IO FileTree := do
  let here : IO.FS.DirEntry := ⟨".", "."⟩
  let nodes ← (← here.path.readDir).toList.mapM (readNodes ⟨.project, []⟩)
  let library := FileTree.bundle []
  return { library with nodes := nodes.flatten ++ library.nodes }

/-- Writes what a tree has in another way than an earlier one. -/
def writeChanges (before after : FileTree) : IO Unit := do
  for (place, node) in after.nodes do
    match node, before.node? place with
    | .directory, none => IO.FS.createDirAll place.print
    | .file bytes, some (.file old) => if bytes != old then IO.FS.writeBinFile place.print bytes
    | .file bytes, _ => IO.FS.writeBinFile place.print bytes
    | .directory, _ => pure ()

end DesignKit

open DesignKit

/-- Runs the command line in the working directory. -/
def main (words : List String) : IO UInt32 := do
  let before ← readTree
  let o := Cli.run .oneByOne before words
  writeChanges before o.tree
  IO.print o.output
  for warning in o.warnings do
    IO.eprintln ("WARNING - " ++ warning)
  match o.message?, o.fault? with
  | some message, _ => IO.eprintln message
  | none, some fault => IO.eprintln (fault.kind ++ ": " ++ fault.message)
  | none, none => if o.status == 2 then IO.eprintln "Usage: anticustom [OPTIONS] COMMAND [ARGS]..."
  return o.status.toUInt32
