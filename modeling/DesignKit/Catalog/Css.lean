import DesignKit.Catalog
import DesignKit.Text.Blank

/-! # Component stylesheets

The stylesheets of all discovered components in one text: for each component the shared stylesheet and that of
a style variant, where they exist, each under a comment that says what it is. -/

namespace DesignKit.Catalog

/-- The lines of a stylesheet: the comment, the text without the blanks at its end, and an empty line. -/
def sectionLines (name label text : String) : List String :=
  ["/* " ++ name ++ ": " ++ label ++ " */", Text.stripEnd text, ""]

/-- The lines of a stylesheet of a component; none when there is no such file. -/
def sheetLines (t : FileTree) (name : String) (directory : Path) (style label : String) :
    Except Fault (List String) :=
  let path := Layout.stylesheet directory style
  if t.isFile path then sectionLines name label <$> t.read path else .ok []

/-- The lines of a component for a style variant. -/
def componentLines (c : Catalog) (t : FileTree) (style name : String) : Except Fault (List String) :=
  match c.directory? t name with
  | none => .ok []
  | some directory => do
    let base ← sheetLines t name directory Layout.baseStyle "base"
    let variant ← sheetLines t name directory style style
    return base ++ variant

/-- The stylesheets of all discovered components for a style variant. -/
def css (c : Catalog) (t : FileTree) (style : String) : Except Fault String := do
  let lines ← (c.names t).mapM (c.componentLines t style)
  return "\n".intercalate lines.flatten

end DesignKit.Catalog
