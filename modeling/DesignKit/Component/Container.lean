import DesignKit.Render
import DesignKit.Stylesheet

/-! # Container

A wrapper that lays its children out in a grid or a flex box. -/

namespace DesignKit.Container
open Helper Markup
open Stylesheet (tall short)

/-- The schema of the component. -/
def schema : Schema where
  name := "container"
  label := "Container"
  category := some "Layout"
  description := some "Structural grid or flex wrapper for child components."
  fields := [
    .declared "layout" "select" "Layout" (.text "grid"),
    .declared "columns" "select" "Columns" (.text "3"),
    .declared "custom_columns" "text" "Custom columns" (.text ""),
    .declared "direction" "select" "Direction" (.text "row"),
    .declared "wrap" "select" "Wrap" (.text "wrap"),
    .declared "gap" "select" "Gap" (.text "m"),
    .declared "align_items" "select" "Align items" (.text "stretch"),
    .declared "justify" "select" "Justify" (.text "start"),
    .declared "children" "children" "Children" (.list [])]
  children := none

/-- The layout attributes of a container. The columns of a grid and the direction of a flex box are left out
under the other layout. -/
def layoutEntries (props : Members) : List (String × Value) :=
  let layout := (props.get "layout").orElse (.text "grid")
  let columns := Value.text ((props.get "columns").orElse (.text "3")).print
  let gap := (props.get "gap").orElse (.text "m")
  let grid := layout.same (.text "grid")
  let flex := layout.same (.text "flex")
  let only (condition : Bool) (v : Value) : Value := if condition then v else .bool false
  [("data-layout", layout), ("data-columns", only (grid && !columns.same (.text "custom")) columns),
    ("data-direction", only flex (props.get "direction")), ("data-wrap", only flex (props.get "wrap")),
    ("data-gap", only (!gap.same (.text "none")) gap), ("data-align", props.get "align_items"),
    ("data-justify", only flex (props.get "justify"))]

/-- The column template of a grid with columns of its own. -/
def customColumns (props : Members) : List Item :=
  let layout := (props.get "layout").orElse (.text "grid")
  let columns := ((props.get "columns").orElse (.text "3")).print
  let custom := props.get "custom_columns"
  Item.given (layout.same (.text "grid") && columns == "custom" && custom.truthy)
    (.attr "style" ("grid-template-columns: " ++ custom.print ++ ";"))

/-- The markup of a container. -/
def template : Template := fun composition props => do
  let content ← composition.children (props.get "children") (.named "container")
  let items := .classed "anti-container" :: attributeItems (layoutEntries props) ++ editable props ++
    customColumns props
  return [block 0 "div" items (content ++ [newline])]

/-- The rules that every style variant of the component shares. -/
def baseStyle : Stylesheet := [
  [tall [".anti-container[data-layout=\"grid\"]"]
      [("display", "grid")]],
  [tall [".anti-container[data-layout=\"flex\"]"]
      [("display", "flex")]],
  [short [".anti-container[data-columns=\"1\"]"]
      [("grid-template-columns", "1fr")],
    short [".anti-container[data-columns=\"2\"]"]
      [("grid-template-columns", "repeat(2, minmax(0, 1fr))")],
    short [".anti-container[data-columns=\"3\"]"]
      [("grid-template-columns", "repeat(3, minmax(0, 1fr))")],
    short [".anti-container[data-columns=\"4\"]"]
      [("grid-template-columns", "repeat(4, minmax(0, 1fr))")],
    short [".anti-container[data-columns=\"5\"]"]
      [("grid-template-columns", "repeat(5, minmax(0, 1fr))")],
    short [".anti-container[data-columns=\"6\"]"]
      [("grid-template-columns", "repeat(6, minmax(0, 1fr))")]],
  [short [".anti-container[data-direction=\"column\"]"]
      [("flex-direction", "column")],
    short [".anti-container[data-wrap=\"wrap\"]"]
      [("flex-wrap", "wrap")],
    short [".anti-container[data-wrap=\"nowrap\"]"]
      [("flex-wrap", "nowrap")]],
  [short [".anti-container[data-gap=\"xxs\"]"]
      [("gap", "var(--space-xxs)")],
    short [".anti-container[data-gap=\"xs\"]"]
      [("gap", "var(--space-xs)")],
    short [".anti-container[data-gap=\"s\"]"]
      [("gap", "var(--space-s)")],
    short [".anti-container[data-gap=\"m\"]"]
      [("gap", "var(--space-m)")],
    short [".anti-container[data-gap=\"l\"]"]
      [("gap", "var(--space-l)")],
    short [".anti-container[data-gap=\"xl\"]"]
      [("gap", "var(--space-xl)")],
    short [".anti-container[data-gap=\"xxl\"]"]
      [("gap", "var(--space-xxl)")]],
  [short [".anti-container[data-align=\"start\"]"]
      [("align-items", "start")],
    short [".anti-container[data-align=\"center\"]"]
      [("align-items", "center")],
    short [".anti-container[data-align=\"stretch\"]"]
      [("align-items", "stretch")],
    short [".anti-container[data-align=\"end\"]"]
      [("align-items", "end")]],
  [short [".anti-container[data-justify=\"center\"]"]
      [("justify-content", "center")],
    short [".anti-container[data-justify=\"end\"]"]
      [("justify-content", "flex-end")],
    short [".anti-container[data-justify=\"between\"]"]
      [("justify-content", "space-between")],
    short [".anti-container[data-justify=\"around\"]"]
      [("justify-content", "space-around")]],
  [.media "max-width: 768px" [⟨[".anti-container[data-layout=\"grid\"]:not([data-columns=\"1\"])"], [("grid-template-columns", "1fr")], false⟩]]]

/-- The rules of the style variant `plato`. -/
def platoStyle : Stylesheet := [
  [tall [".anti-container"]
      [("width", "100%")]]]

end DesignKit.Container
