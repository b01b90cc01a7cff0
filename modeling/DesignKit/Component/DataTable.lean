import DesignKit.Render
import DesignKit.Stylesheet

/-! # Table

A table of rows. A column shows a member of each row, or it delegates its cells to a component whose props
are interpolated against the row; the actions of a row are delegated in the same way. A table without rows
shows what is given for that case. -/

namespace DesignKit.DataTable
open Helper Markup
open Stylesheet (tall short)

/-- The schema of the component. -/
def schema : Schema where
  name := "table"
  label := "Table"
  category := some "Data"
  description := some "Data table with column delegation to child components, row actions and an empty state."
  fields := [
    .declared "columns" "columns" "Columns" (.list []),
    .declared "data" "data" "Rows" (.list []),
    .declared "row_key" "text" "Row key" (.text "id"),
    .declared "sortable" "toggle" "Sortable" (.bool false),
    .declared "sort_by" "text" "Sort by" (.text ""),
    .declared "sort_direction" "select" "Sort direction" (.text "asc"),
    .declared "selectable" "toggle" "Selectable" (.bool false),
    .declared "selected" "list" "Selected rows" (.list []),
    .declared "actions" "actions" "Row actions" (.list []),
    .declared "empty_icon" "html" "Empty icon" (.text ""),
    .declared "empty_title" "text" "Empty title" (.text "No items found"),
    .declared "empty_text" "text" "Empty text" (.text ""),
    .declared "empty_action" "component" "Empty action" (.object [])]
  children := none

/-- What the parts of a table have in common. -/
structure Layout where
  columns : List Value
  rowKey : Value
  sortable : Bool
  sortBy : Value
  ascending : Bool
  selectable : Bool
  selected : Value
  actions : Value

/-- The layout that props give. -/
def Layout.ofProps (props : Members) : Except Fault Layout := do
  let columns ← items ((props.get "columns").orElse (.list []))
  return { columns
           rowKey := (props.get "row_key").orElse (.text "id")
           sortable := flag (props.get "sortable")
           sortBy := (props.get "sort_by").orElse (.text "")
           ascending := ((props.get "sort_direction").orElse (.text "asc")).same (.text "asc")
           selectable := flag (props.get "selectable")
           selected := (props.get "selected").orElse (.list [])
           actions := (props.get "actions").orElse (.list []) }

/-- The alignment of a column. -/
def alignment (column : Value) : Except Fault Value := do
  return (← member column "align" .null).orElse (.text "left")

/-! ### Head -/

/-- The table is sorted by a column. -/
def isSorted (l : Layout) (column : Value) : Except Fault Bool := do
  let key ← member column "key" (.text "")
  return l.sortable && flag (← member column "sortable" .null) && key.same l.sortBy

/-- The mark of the column by which the table is sorted. -/
def sortIcon (l : Layout) : Node :=
  .element "span"
    [.classed "anti-table__sort-icon", .attr "aria-label" ("Sorted " ++ if l.ascending then "ascending" else "descending")]
    [.reference (if l.ascending then 9650 else 9660)]

/-- The lines of the head cell of a column. -/
def headLines (l : Layout) (column : Value) : Except Fault Markup := do
  let sortable := l.sortable && flag (← member column "sortable" .null)
  let align ← alignment column
  let sorted ← isSorted l column
  let css ← classes [named "anti-table__th" true,
    named ("anti-table__th--" ++ align.print) (!align.same (.text "left")),
    named "anti-table__th--sortable" sortable, named "anti-table__th--sorted" sorted]
  let width ← member column "width" .null
  let label ← member column "label" (.text "")
  return blockLine 12 "th"
    (.classed css :: Item.given width.truthy (.attr "style" ("width: " ++ width.print ++ ";")))
    (line 16 (.ofValue label) ++ given sorted (line 16 (sortIcon l)))

/-- The lines of the head cell of the selection. -/
def selectAllLines : Markup :=
  blockLine 12 "th" [.classed "anti-table__th anti-table__th--select", .attr "style" "width: 40px;"]
    (line 16 (.void "input" [.attr "type" "checkbox", .classed "anti-table__select-all",
      .attr "aria-label" "Select all rows"] .plain))

/-- The lines of the head. A table without columns has none. -/
def headSection (l : Layout) : Except Fault Markup := do
  if l.columns.isEmpty then return []
  let cells ← l.columns.mapM (headLines l)
  return blockLine 4 "thead" [.classed "anti-table__head"]
    (blockLine 8 "tr" []
      (given l.selectable selectAllLines ++ cells.flatten ++
        given l.actions.truthy
          (line 12 (.element "th" [.classed "anti-table__th anti-table__th--actions"] [.text "Actions"]))))

/-! ### Table without rows -/

/-- How many cells a row has. -/
def width (l : Layout) : Nat :=
  l.columns.length + (if l.selectable then 1 else 0) + (if l.actions.truthy then 1 else 0)

/-- The lines of the action that is offered while there are no rows. -/
def emptyActionLines (c : Composition) (props : Members) : Render Markup := do
  let action := (props.get "empty_action").orElse (.object [])
  let name ← member action "name" .null
  if name.truthy then
    let m ← c.child name ((← member action "props" .null).orElse (.object [])) none
    return blockLine 20 "div" [.classed "anti-table__empty-action"] (m ++ [newline])
  else return []

/-- The lines of the row that stands for missing rows. -/
def emptyRow (c : Composition) (l : Layout) (props : Members) : Render Markup := do
  let icon := props.get "empty_icon"
  let title := props.get "empty_title"
  let text := props.get "empty_text"
  let action ← emptyActionLines c props
  return blockLine 8 "tr" [.classed "anti-table__empty-row"]
    (blockLine 12 "td" [.classed "anti-table__empty", .attr "colspan" (Number.intText (width l))]
      (blockLine 16 "div" [.classed "anti-table__empty-content"]
        (given icon.truthy
            (line 20 (.element "div" [.classed "anti-table__empty-icon"] [.verbatim icon.print])) ++
          given title.truthy (line 20 (.element "p" [.classed "anti-table__empty-title"] [.ofValue title])) ++
          given text.truthy (line 20 (.element "p" [.classed "anti-table__empty-text"] [.ofValue text])) ++
          action)))

/-! ### Rows -/

/-- The markup of a component delegated to: its props are interpolated against the row. -/
def delegated (c : Composition) (name delegate row : Value) : Render Markup := do
  let props := (← member delegate "props" .null).orElse (.object [])
  match props.members? with
  | some m => c.child name (.object (m.interpolate row)) none
  | none => Render.fail .noMembers

/-- The lines of the cell of a column. -/
def cellLines (c : Composition) (row column : Value) : Render Markup := do
  let align ← alignment column
  let delegate := (← member column "component" .null).orElse (.object [])
  let css ← classes [named "anti-table__td" true,
    named ("anti-table__td--" ++ align.print) (!align.same (.text "left"))]
  let name ← member delegate "name" .null
  let key ← member column "key" .null
  let content : Markup ←
    if name.truthy then do pure ((← delegated c name delegate row) ++ [newline])
    else if key.isNull then pure []
    else do pure (line 16 (.ofValue (← memberAt row key (.text ""))))
  return blockLine 12 "td" [.classed css] content

/-- The lines of the cells of columns. -/
def allCellLines (c : Composition) (row : Value) : List Value → Render Markup
  | [] => return []
  | column :: rest => do
    let cell ← cellLines c row column
    let others ← allCellLines c row rest
    return cell ++ others

/-- The lines of actions on a row. -/
def actionLines (c : Composition) (row : Value) : List Value → Render Markup
  | [] => return []
  | action :: rest => do
    let name := (← member action "name" .null).orElse (.text "button")
    let m ← delegated c name action row
    let others ← actionLines c row rest
    return m ++ newline :: others

/-- The lines of the cell of the actions on a row. -/
def actionCell (c : Composition) (l : Layout) (row : Value) : Render Markup := do
  if l.actions.truthy then
    let actions ← actionLines c row (← items l.actions)
    return blockLine 12 "td" [.classed "anti-table__td anti-table__td--actions"]
      (blockLine 16 "div" [.classed "anti-table__actions"] actions)
  else return []

/-- The lines of the cell of the selection. -/
def selectLines (id : Value) (selected : Bool) : Markup :=
  blockLine 12 "td" [.classed "anti-table__td anti-table__td--select"]
    (line 16 (.void "input" (.attr "type" "checkbox" :: Item.given selected (.flag "checked") ++
      [.attr "aria-label" "Select row", .valued "value" id]) .plain))

/-- The lines of a row. -/
def rowLines (c : Composition) (l : Layout) (row : Value) : Render Markup := do
  let id ← memberAt row l.rowKey (.text "")
  let selected ← occurs id l.selected
  let css ← classes [named "anti-table__row" true, named "anti-table__row--selected" selected]
  let cells ← allCellLines c row l.columns
  let actions ← actionCell c l row
  return blockLine 8 "tr" [.classed css, .valued "data-row-key" id]
    (given l.selectable (selectLines id selected) ++ cells ++ actions)

/-- The lines of rows. -/
def allRowLines (c : Composition) (l : Layout) : List Value → Render Markup
  | [] => return []
  | row :: rest => do
    let lines ← rowLines c l row
    let others ← allRowLines c l rest
    return lines ++ others

/-- The markup of a table. -/
def template : Template := fun composition props => do
  let layout ← Layout.ofProps props
  let rows := (props.get "data").orElse (.list [])
  let head ← headSection layout
  let body ← if rows.truthy then do allRowLines composition layout (← items rows)
    else emptyRow composition layout props
  return [block 0 "div" (.classed "anti-table-wrap" :: editable props)
    (line 0 (block 0 "table" [.classed "anti-table"]
      (head ++ blockLine 4 "tbody" [.classed "anti-table__body"] body)))]

/-- The rules that every style variant of the component shares. -/
def baseStyle : Stylesheet := [
  [tall [".anti-table-wrap"]
      [("width", "100%"), ("overflow-x", "auto")]],
  [tall [".anti-table"]
      [("width", "100%"), ("border-collapse", "collapse")]],
  [tall [".anti-table__th", ".anti-table__td"]
      [("padding", "var(--space-s) var(--space-m)"), ("text-align", "left"), ("vertical-align", "middle")]],
  [short [".anti-table__th--center", ".anti-table__td--center"]
      [("text-align", "center")]],
  [short [".anti-table__th--right", ".anti-table__td--right"]
      [("text-align", "right")]],
  [tall [".anti-table__th--sortable"]
      [("cursor", "pointer"), ("user-select", "none")]],
  [tall [".anti-table__actions"]
      [("display", "flex"), ("justify-content", "flex-end"), ("gap", "var(--space-xs)")]],
  [tall [".anti-table__empty-content"]
      [("display", "flex"), ("flex-direction", "column"), ("align-items", "center"), ("gap", "var(--space-s)"),
        ("padding", "var(--space-xl)"), ("text-align", "center")]],
  [tall [".anti-table__empty-title", ".anti-table__empty-text"]
      [("margin", "0")]]]

/-- The rules of the style variant `plato`. -/
def platoStyle : Stylesheet := [
  [tall [".anti-table__head"]
      [("border-bottom", "var(--border-m, 2px) solid var(--neutral-light, #e5e7eb)")]],
  [tall [".anti-table__th"]
      [("font-size", "var(--text-s)"), ("font-weight", "600"), ("text-transform", "uppercase"),
        ("letter-spacing", "0.04em")]],
  [tall [".anti-table__row"]
      [("border-bottom", "var(--border-s, 1px) solid var(--neutral-light, #e5e7eb)")]],
  [tall [".anti-table__row--selected"]
      [("background", "var(--primary-ultra-light, #eff6ff)")]],
  [tall [".anti-table__empty-title"]
      [("font-weight", "600")]],
  [tall [".anti-table__empty-text"]
      [("opacity", "0.7")]]]

end DesignKit.DataTable
