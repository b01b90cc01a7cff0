import DesignKit.Proofs.DataTable.Head
import Mathlib.Data.List.Forall2

/-! # The grid of a table

Head, rows and the row that stands for missing rows are composed apart from each other. They come to one
width: a cell for each column, one for the selection and one for the actions where these are on. -/

namespace DesignKit

namespace DataTable
open Helper Markup

/-- The cells of a row. -/
def cells (row : Element) : List Element :=
  row.content.elements "td"

/-- How many cells a row of a table has: one for each column, one for the selection and one for the actions. -/
def cellCount (bag : Members) (columns : List Value) : Nat :=
  columns.length + (if flag (bag.get "selectable") then 1 else 0) + (if (bag.get "actions").truthy then 1 else 0)

theorem Layout.truthy_actions_ofColumns (columns : List Value) (bag : Members) :
    (ofColumns columns bag).actions.truthy = (bag.get "actions").truthy :=
  Value.truthy_orElse_nil _

theorem width_ofColumns (columns : List Value) (bag : Members) : width (.ofColumns columns bag) = cellCount bag columns := by
  rw [width, Layout.truthy_actions_ofColumns]
  rfl

/-! ### Cells -/

/-- A column delegates its cells to a component. -/
def delegates (column : Members) : Bool :=
  match (column.get "component").orElse (.object []) with
  | .object delegate => (Members.get delegate "name").truthy
  | _ => false

/-- What a cell shows of a record where its column does not delegate it: the value under the column's key, or
nothing if the column has none. -/
def ShowsValue (record : Members) (column : Value) (cell : Element) : Prop :=
  ∀ members : Members, column = .object members → delegates members = false →
    (∀ key, members.get "key" = .text key →
      cell.content = newline :: line 16 (.ofValue (record.getD key (.text ""))) ++ [pad 12]) ∧
    (members.get "key" = .null → cell.content = [newline, pad 12])

variable {c : Composition}

theorem cellLines_grid (record : Members) (column : Value) : (cellLines c (.object record) column).Ensures fun lines =>
    ∃ cell, lines.elements "td" = [cell] ∧ ShowsValue record column cell := by
  unfold cellLines
  refine Render.Ensures.bind_result fun align _ => Render.Ensures.bind_result fun component hcomponent =>
    Render.Ensures.bind_result fun css _ => Render.Ensures.bind_result fun name hname =>
    Render.Ensures.bind_result fun key hkey => ?_
  obtain ⟨members, rfl, rfl⟩ := member_eq_ok.mp hcomponent
  obtain ⟨delegate, hdelegate, rfl⟩ := member_eq_ok.mp hname
  obtain rfl : members.get "key" = key := Except.ok.inj hkey
  have hdelegates : delegates members = (Members.get delegate "name").truthy := by
    unfold delegates
    rw [show (members.get "component").orElse (.object []) = .object delegate from hdelegate]
  -- The content of the cell is delegated, nothing or a value; in each case the cell is one element around it.
  split
  · rename_i hname
    refine Render.Ensures.bind_result fun shown _ => Render.Ensures.pure ⟨_, elements_blockLine_self _ _ _ _, ?_⟩
    rintro _ ⟨⟩ hnot
    rw [hdelegates] at hnot
    exact absurd hname (Bool.eq_false_iff.mp hnot)
  · split
    · rename_i hnull
      refine Render.Ensures.pure ⟨_, elements_blockLine_self _ _ _ _, ?_⟩
      rintro _ ⟨⟩ -
      refine ⟨fun key hkey => ?_, fun _ => rfl⟩
      rw [hkey] at hnull
      cases hnull
    · rename_i hnull
      refine Render.Ensures.bind_result fun v hv => Render.Ensures.pure ⟨_, elements_blockLine_self _ _ _ _, ?_⟩
      rintro _ ⟨⟩ -
      refine ⟨fun key hkey => ?_, fun hkey => absurd ?_ hnull⟩
      · rw [hkey] at hv
        cases hv
        rfl
      · rw [hkey]
        rfl

/-- The cells of columns are one for each column, in order. -/
theorem allCellLines_grid (record : Members) (columns : List Value) :
    (allCellLines c (.object record) columns).Ensures fun lines =>
      List.Forall₂ (ShowsValue record) columns (lines.elements "td") := by
  induction columns with
  | nil => exact Render.Ensures.pure .nil
  | cons column rest ih =>
    refine Render.Ensures.bind (cellLines_grid record column) ?_
    rintro lines ⟨cell, hlines, hcell⟩
    refine Render.Ensures.bind ih fun others hothers => Render.Ensures.pure ?_
    rw [elements_append, hlines]
    exact .cons hcell hothers

/-- The cell of the actions is there when there are any. -/
theorem actionCell_grid (l : Layout) (row : Value) : (actionCell c l row).Ensures fun lines =>
    (lines.elements "td").length = if l.actions.truthy then 1 else 0 := by
  unfold actionCell
  split
  · refine Render.Ensures.bind_result fun actions _ => Render.Ensures.bind_result fun lines _ => Render.Ensures.pure ?_
    rw [elements_blockLine_self]
    rfl
  · exact Render.Ensures.pure rfl

/-! ### Rows -/

/-- What a row of the body shows of a record: its key, and as many cells as the table is wide, among them one
for each column that shows what it has of the record. -/
structure ShowsRecord (bag : Members) (columns : List Value) (record : Members) (row : Element) : Prop where
  key : ∃ id, memberAt (.object record) ((bag.get "row_key").orElse (.text "id")) (.text "") = .ok id ∧
    row.attribute? "data-row-key" = some id.print
  count : (cells row).length = cellCount bag columns
  values : ∃ select shown actions, cells row = select ++ shown ++ actions ∧
    List.Forall₂ (ShowsValue record) columns shown ∧ select.length = if flag (bag.get "selectable") then 1 else 0

theorem rowLines_grid (columns : List Value) (bag : Members) (row : Value) :
    (rowLines c (.ofColumns columns bag) row).Ensures fun lines => ∃ record shown, row = .object record ∧
      lines.elements "tr" = [shown] ∧ ShowsRecord bag columns record shown := by
  unfold rowLines
  refine Render.Ensures.bind_result fun id hid => Render.Ensures.bind_result fun selected _ =>
    Render.Ensures.bind_result fun css _ => ?_
  obtain ⟨record, rfl⟩ : ∃ record, row = .object record := by
    cases row with
    | object record => exact ⟨record, rfl⟩
    | _ => cases hid
  refine Render.Ensures.bind (allCellLines_grid record columns) fun shown hshown =>
    Render.Ensures.bind (actionCell_grid _ _) fun actions hactions => Render.Ensures.pure
      ⟨record, _, rfl, elements_blockLine_self _ _ _ _, ?_⟩
  have hselect : (elements "td" (given (flag (bag.get "selectable")) (selectLines id selected))).length =
      if flag (bag.get "selectable") then 1 else 0 := by
    cases flag (bag.get "selectable") <;> rfl
  have hcells : cells ⟨[.classed css, .valued "data-row-key" id], newline ::
      (given (flag (bag.get "selectable")) (selectLines id selected) ++ shown ++ actions) ++ [pad 8]⟩ =
      elements "td" (given (flag (bag.get "selectable")) (selectLines id selected)) ++ shown.elements "td" ++
        actions.elements "td" := by
    rw [cells, elements_block_content, elements_append, elements_append]
  refine ⟨⟨id, hid, rfl⟩, ?_, ⟨_, _, _, hcells, hshown, hselect⟩⟩
  rw [Layout.truthy_actions_ofColumns] at hactions
  refine Eq.trans (congrArg List.length hcells) ?_
  rw [List.length_append, List.length_append, hselect, ← hshown.length_eq, hactions, cellCount]
  omega

theorem allRowLines_grid (columns : List Value) (bag : Members) (rows : List Value) :
    (allRowLines c (.ofColumns columns bag) rows).Ensures fun body => ∃ records : List Members,
      rows = records.map .object ∧ List.Forall₂ (ShowsRecord bag columns) records (body.elements "tr") := by
  induction rows with
  | nil => exact Render.Ensures.pure ⟨[], rfl, .nil⟩
  | cons row rest ih =>
    refine Render.Ensures.bind (rowLines_grid columns bag row) ?_
    rintro lines ⟨record, shown, rfl, hlines, hshown⟩
    refine Render.Ensures.bind ih ?_
    rintro others ⟨records, rfl, hothers⟩
    refine Render.Ensures.pure ⟨record :: records, rfl, ?_⟩
    rw [elements_append, hlines]
    exact .cons hshown hothers

/-- The row that stands for missing rows has one cell, as wide as the table. -/
theorem emptyRow_grid (columns : List Value) (bag : Members) :
    (emptyRow c (.ofColumns columns bag) bag).Ensures fun body => ∃ row cell, body.elements "tr" = [row] ∧
      cells row = [cell] ∧ cell.attribute? "colspan" = some (Number.intText (cellCount bag columns)) := by
  unfold emptyRow
  refine Render.Ensures.bind_result fun action _ => Render.Ensures.pure ⟨_, _, elements_blockLine_self _ _ _ _,
    (elements_block_content _ _ _).trans (elements_blockLine_self _ _ _ _), ?_⟩
  rw [← width_ofColumns]
  rfl

/-! ### The whole table -/

theorem headCells_length {columns : List Members} (bag : Members) (h : columns ≠ []) :
    (if columns = [] then [] else selectHead (.ofColumns (columns.map .object) bag) ++
        columns.map (headCell (.ofColumns (columns.map .object) bag)) ++
        actionsHead (.ofColumns (columns.map .object) bag)).length = cellCount bag (columns.map .object) := by
  have hselect : (selectHead (.ofColumns (columns.map .object) bag)).length =
      if flag (bag.get "selectable") then 1 else 0 :=
    selectHead_length _
  have hactions : (actionsHead (.ofColumns (columns.map .object) bag)).length =
      if (bag.get "actions").truthy then 1 else 0 := by
    unfold actionsHead
    rw [Layout.truthy_actions_ofColumns]
    cases (bag.get "actions").truthy <;> rfl
  rw [if_neg h, List.length_append, List.length_append, hselect, hactions, List.length_map, cellCount, List.length_map]
  omega

/-- A table with columns has one width. Its head has as many cells as there are columns, and one for the selection
and one for the actions where these are on; the rows of the body are those of the data, one for each in order,
with as many cells each; and without data there is one row with one cell that spans as many. -/
theorem grid_of_component {r : Renderer} {name : String} (hr : r.registry.find? name = some (.bundled .table))
    {levels : Nat} {props : Value} {m : Markup} (hm : (r.component (levels + 1) (.text name) props).result = .ok m)
    {bag : Members} (hbag : (r.fill name props).result = .ok bag) {columns : List Value}
    (hcolumns : bag.get "columns" = .list columns) (hne : columns ≠ []) :
    (headCells m).length = cellCount bag columns ∧
    ((bag.get "data").truthy = false → ∃ row cell, bodyRows m = [row] ∧ cells row = [cell] ∧
      cell.attribute? "colspan" = some (Number.intText (cellCount bag columns))) ∧
    ((bag.get "data").truthy = true → ∃ records : List Members, bag.get "data" = .list (records.map .object) ∧
      List.Forall₂ (ShowsRecord bag columns) records (bodyRows m)) := by
  rw [Renderer.result_component hr hbag] at hm
  obtain ⟨members, _, body, hmembers, rfl, hhead, hbody, hrows⟩ := template_eq_ok hm
  obtain rfl : columns = members.map .object := by
    rw [hcolumns] at hmembers
    cases columns with
    | nil => exact absurd rfl hne
    | cons column rest => exact Value.list.inj hmembers
  refine ⟨?_, fun hdata => ?_, fun hdata => ?_⟩
  · rw [hhead]
    exact headCells_length bag fun h => hne (by rw [h]; rfl)
  · unfold bodyLines at hbody
    rw [if_neg (Bool.eq_false_iff.mp hdata)] at hbody
    rw [hrows]
    exact emptyRow_grid _ bag body hbody
  · unfold bodyLines at hbody
    rw [if_pos hdata] at hbody
    obtain ⟨rows, hitems, hbody⟩ := Render.bind_eq_ok.mp hbody
    obtain ⟨records, rfl, hrecords⟩ := allRowLines_grid _ bag rows body hbody
    rw [hrows]
    exact ⟨records, Value.eq_list_of_items? hdata (items_eq_ok.mp hitems), hrecords⟩

/-- Props of a table with a keyed, a delegated and a blank column. -/
def staffProps (data : List Value) : Members := [
  ("columns", .list [.object [("label", .text "Name"), ("key", .text "name")],
    .object [("label", .text "State"), ("component", .object [("name", .text "badge"),
      ("props", .object [("text", .text "\x7bstate\x7d")])])], .object []]),
  ("data", .list data), ("selectable", .text "yes"),
  ("actions", .list [.object [("props", .object [("text", .text "Edit")])]])]

theorem fill_staffProps (data : List Value) : ((Renderer.bundle .refuse).fill "table" (.object (staffProps data))).result =
    .ok (schema.handed (staffProps data)) := rfl

theorem grid_of_component_staff :
    (∃ m, ((Renderer.bundle .refuse).component 3 (.text "table") (.object (staffProps
        [.object [("id", .int 7), ("name", .text "Ada"), ("state", .text "on")]]))).result = .ok m ∧
      (headCells m).length = 5 ∧ ∃ row, bodyRows m = [row] ∧ row.attribute? "data-row-key" = some "7" ∧
        (cells row).length = 5 ∧ ∃ select shown others, cells row = select :: shown :: others ∧
          shown.content = newline :: line 16 (.text "Ada") ++ [pad 12]) ∧
    ∃ m, ((Renderer.bundle .refuse).component 3 (.text "table") (.object (staffProps []))).result = .ok m ∧
      ∃ row cell, bodyRows m = [row] ∧ cells row = [cell] ∧ cell.attribute? "colspan" = some "5" := by
  constructor
  · refine exists_ok (by decide +kernel) fun m hm => ?_
    obtain ⟨hhead, -, hrows⟩ := grid_of_component (r := Renderer.bundle .refuse) rfl hm (fill_staffProps _) rfl (by decide)
    obtain ⟨records, hdata, hrows⟩ := hrows rfl
    obtain ⟨_, rfl, ⟨⟩⟩ := List.map_eq_singleton_iff.mp (Value.list.inj hdata).symm
    obtain ⟨row, _, hrow, hnone, hrows⟩ := List.forall₂_cons_left_iff.mp hrows
    rw [List.forall₂_nil_left_iff.mp hnone] at hrows
    obtain ⟨id, hid, hkey⟩ := hrow.key
    obtain ⟨select, shown, actions, hcells, hshown, hselect⟩ := hrow.values
    obtain ⟨first, hselect⟩ := List.length_eq_one_iff.mp hselect
    obtain ⟨second, others, hsecond, -, rfl⟩ := List.forall₂_cons_left_iff.mp hshown
    cases hid
    refine ⟨hhead, row, hrows, hkey, hrow.count, first, second, others ++ actions, ?_, ?_⟩
    · rw [hcells, hselect]
      rfl
    · exact (hsecond _ rfl rfl).1 "name" rfl
  · refine exists_ok (by decide +kernel) fun m hm => ?_
    exact (grid_of_component (r := Renderer.bundle .refuse) rfl hm (fill_staffProps []) rfl (by decide)).2.1 rfl

end DataTable
end DesignKit
