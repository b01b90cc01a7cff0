import DesignKit.Colorway

/-! # Stylesheets of tokens

A table and its colorways as a stylesheet: the tokens as declarations of the root, then for each colorway a
block of its entries. Every declaration stands on a line of its own. -/

namespace DesignKit.Css

/-- The line of a declaration. -/
def declaration (property value : String) : String :=
  "    " ++ property ++ ": " ++ value ++ ";"

/-- The lines of a block: its selector, its declarations and the closing brace. -/
def block (selector : String) (declarations : List (String × String)) : List String :=
  (selector ++ " \x7b") :: declarations.map (fun (property, value) => declaration property value) ++ ["\x7d"]

/-- The lines of the tokens. -/
def rootLines (table : Table) : List String :=
  block ":root" (table.map fun token => (token.name, token.value))

/-- The lines of a colorway. -/
def colorwayLines (c : Colorway) : List String :=
  block ("[data-colorway=\"" ++ c.name ++ "\"]") (c.values.map fun (key, value) => ("--colorway-" ++ key, value))

/-- Lines as a text, each of them ended by a line break. -/
def joinLines (lines : List String) : String :=
  "\n".intercalate lines ++ "\n"

/-- The stylesheet of a table and its colorways. -/
def emit (table : Table) (colorways : List Colorway) : String :=
  joinLines (rootLines table ++ colorways.flatMap colorwayLines)

/-- The stylesheet of a document. -/
def compile (rounding : Color.Rounding) (schema : ScaleSchema) (doc : Value) : Except Fault String := do
  let table ← TokenDocument.compile rounding schema doc
  let colorways ← Colorway.ofDocument doc
  return emit table colorways

end DesignKit.Css
