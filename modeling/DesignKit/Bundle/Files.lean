import DesignKit.Bundle
import DesignKit.Catalog.Layout
import DesignKit.FileTree
import DesignKit.Json.Printer

/-! # The files of the bundled library

The bundled library as a directory of component directories, so that it can be searched like any other. Its
schemas and stylesheets are written out; its templates are part of the program, and their files are empty. -/

namespace DesignKit.Bundled

/-- The directory of the bundled library. -/
def library : Path := ⟨.bundled, []⟩

/-- The directory of a bundled component. -/
def directory (b : Bundled) : Path := library.child b.name

/-- The directories and files of a bundled component. -/
def nodes (b : Bundled) : List (Path × FileNode) :=
  [(b.directory, .directory),
    (Layout.schemaFile b.directory b.name, .ofText b.schema.toValue.toJson),
    (b.directory.child "templates", .directory),
    (Layout.templateFile b.directory b.name, .ofText ""),
    (Layout.styles b.directory, .directory),
    (Layout.stylesheet b.directory Layout.baseStyle, .ofText b.baseStyle.print),
    (Layout.stylesheet b.directory "plato", .ofText b.platoStyle.print)]

/-- The directories and files of the library. -/
def files : List (Path × FileNode) := all.flatMap nodes

end DesignKit.Bundled

namespace DesignKit

/-- A tree that holds nothing but the bundled library, for a working directory below the project's root. -/
def FileTree.bundle (working : List String) : FileTree := ⟨working, Bundled.files⟩

end DesignKit
