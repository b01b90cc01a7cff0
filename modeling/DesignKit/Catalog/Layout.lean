import DesignKit.Path

/-! # The layout of a component directory

Every component has a directory of its own, which is called like the component. It holds the schema, under
`templates` the template and under `styles` the stylesheets: one that all style variants share and one for
each variant. -/

namespace DesignKit.Layout

/-- The file name ending of schemas. -/
def schemaEnding : String := ".schema.json"

/-- The file name ending of stylesheets. -/
def styleEnding : String := ".css"

/-- The name of the stylesheet that all variants share. -/
def baseStyle : String := "_base"

/-- The schema file of a component in its directory. -/
def schemaFile (directory : Path) (name : String) : Path :=
  directory.child (name ++ schemaEnding)

/-- The template file of a component in its directory. -/
def templateFile (directory : Path) (name : String) : Path :=
  (directory.child "templates").child (name ++ ".html")

/-- The directory of the stylesheets. -/
def styles (directory : Path) : Path :=
  directory.child "styles"

/-- The stylesheet of a variant, whose name may lead through other directories. -/
def stylesheet (directory : Path) (style : String) : Path :=
  (styles directory).join (style ++ styleEnding)

end DesignKit.Layout
