import DesignKit.Proofs.ClassList
import DesignKit.Proofs.Html.Element
import DesignKit.Proofs.Precedence

/-! # The head of a table

A table whose rendering succeeds has columns that are objects. Its head has one cell for each of them, between
that of the selection and that of the actions where these are on. -/

namespace DesignKit

theorem Value.truthy_orElse_nil (v : Value) : (v.orElse (.list [])).truthy = v.truthy := by
  unfold orElse
  split
  · rfl
  · rename_i h
    exact (Bool.eq_false_iff.mpr h).symm

/-- A walk over a value that is true meets nothing but objects only in a list. -/
theorem Value.eq_list_of_items? {v : Value} {records : List Members} (hv : v.truthy = true)
    (h : v.items? = some (records.map .object)) : v = .list (records.map .object) := by
  have hmap : ∀ {α : Type} {l : List α} {f : α → String}, l.map (fun a => text (f a)) = records.map .object → l = [] := by
    intro α l f heq
    cases l with
    | nil => rfl
    | cons a rest => cases records <;> cases heq
  cases v with
  | list items => rw [Option.some.inj h]
  | object members =>
    rw [hmap (Option.some.inj h)] at hv
    cases hv
  | text s =>
    have hs : s = "" := String.toList_eq_nil_iff.mp (hmap (Option.some.inj h))
    rw [hs] at hv
    cases hv
  | _ => cases h

theorem Value.orElse_nil_eq_list {v : Value} {records : List Members}
    (h : (v.orElse (.list [])).items? = some (records.map .object)) : v.orElse (.list []) = .list (records.map .object) := by
  unfold orElse at h ⊢
  split at h
  · rename_i hv
    rw [if_pos hv]
    exact eq_list_of_items? hv h
  · rename_i hv
    rw [if_neg hv, Option.some.inj h]

namespace Helper

theorem member_eq_ok {v default w : Value} {key : String} :
    member v key default = .ok w ↔ ∃ m : Members, v = .object m ∧ w = m.getD key default := by
  constructor
  · intro h
    cases v with
    | object m =>
      cases h
      exact ⟨m, rfl, rfl⟩
    | _ => cases h
  · rintro ⟨m, rfl, rfl⟩
    rfl

end Helper

namespace DataTable
open Helper Markup

/-- The layout of columns that props give. -/
def Layout.ofColumns (columns : List Value) (props : Members) : Layout where
  columns := columns
  rowKey := (props.get "row_key").orElse (.text "id")
  sortable := flag (props.get "sortable")
  sortBy := (props.get "sort_by").orElse (.text "")
  ascending := ((props.get "sort_direction").orElse (.text "asc")).same (.text "asc")
  selectable := flag (props.get "selectable")
  selected := (props.get "selected").orElse (.list [])
  actions := (props.get "actions").orElse (.list [])

theorem Layout.ofProps_eq_ok {props : Members} {l : Layout} : ofProps props = .ok l ↔
    ∃ columns, ((props.get "columns").orElse (.list [])).items? = some columns ∧ l = ofColumns columns props := by
  unfold ofProps
  rw [except_bind_eq_ok]
  constructor
  · rintro ⟨columns, hcolumns, h⟩
    cases h
    exact ⟨columns, items_eq_ok.mp hcolumns, rfl⟩
  · rintro ⟨columns, hcolumns, rfl⟩
    exact ⟨columns, items_eq_ok.mpr hcolumns, rfl⟩

/-! ### Cells -/

/-- The cells of the head. -/
def headCells (m : Markup) : List Element :=
  ((((m.within "div").within "table").within "thead").within "tr").elements "th"

/-- The rows of the body. -/
def bodyRows (m : Markup) : List Element :=
  (((m.within "div").within "table").within "tbody").elements "tr"

/-- The alignment that a column gives. -/
def columnAlignment (column : Members) : Value :=
  (column.get "align").orElse (.text "left")

/-- A column by which the table may be sorted. -/
def sorts (l : Layout) (column : Members) : Bool :=
  l.sortable && flag (column.get "sortable")

/-- The column by which the table counts as sorted. -/
def marks (l : Layout) (column : Members) : Bool :=
  sorts l column && (column.getD "key" (.text "")).same l.sortBy

/-- The conditions of the classes of a head cell. -/
def headConditions (l : Layout) (column : Members) : List (String × Bool) :=
  [("anti-table__th", true),
    ("anti-table__th--" ++ (columnAlignment column).print, !(columnAlignment column).same (.text "left")),
    ("anti-table__th--sortable", sorts l column), ("anti-table__th--sorted", marks l column)]

/-- The class list of a head cell. -/
def headClasses (l : Layout) (column : Members) : String :=
  " ".intercalate (chosen (headConditions l column))

/-- The head cell of a column. -/
def headCell (l : Layout) (column : Members) : Element where
  items := .classed (headClasses l column) ::
    Item.given (column.get "width").truthy (.attr "style" ("width: " ++ (column.get "width").print ++ ";"))
  content := newline ::
    (line 16 (.ofValue (column.getD "label" (.text ""))) ++ given (marks l column) (line 16 (sortIcon l))) ++ [pad 12]

theorem headLines_object (l : Layout) (column : Members) :
    headLines l (.object column) = .ok (line 12 (.element "th" (headCell l column).items (headCell l column).content)) := by
  -- What is read of a column that is an object comes to a value; only the class list is left to be put together.
  show (classes ((headConditions l column).map fun e => named e.1 e.2) >>= fun css => Except.ok (blockLine 12 "th"
    (.classed css :: Item.given (column.get "width").truthy
      (.attr "style" ("width: " ++ (column.get "width").print ++ ";")))
    (line 16 (.ofValue (column.getD "label" (.text ""))) ++ given (marks l column) (line 16 (sortIcon l))))) = _
  rw [classes_named]
  rfl

/-- Only a column that is an object has a head cell. -/
theorem headLines_eq_ok {l : Layout} {column : Value} {lines : Markup} : headLines l column = .ok lines ↔
    ∃ members, column = .object members ∧
      lines = line 12 (.element "th" (headCell l members).items (headCell l members).content) := by
  constructor
  · intro h
    obtain ⟨_, hmember, -⟩ := except_bind_eq_ok.mp h
    obtain ⟨members, rfl, -⟩ := member_eq_ok.mp hmember
    rw [headLines_object] at h
    cases h
    exact ⟨members, rfl, rfl⟩
  · rintro ⟨members, rfl, rfl⟩
    exact headLines_object l members

/-- The lines of the head cells of columns are those of objects, one after the other. -/
theorem mapM_headLines_eq_ok {l : Layout} {columns : List Value} {cells : List Markup}
    (h : columns.mapM (headLines l) = .ok cells) : ∃ members : List Members, columns = members.map .object ∧
      elements "th" cells.flatten = members.map (headCell l) := by
  induction columns generalizing cells with
  | nil =>
    cases h
    exact ⟨[], rfl, rfl⟩
  | cons column rest ih =>
    rw [List.mapM_cons, except_bind_eq_ok] at h
    obtain ⟨lines, hlines, h⟩ := h
    obtain ⟨others, hothers, h⟩ := except_bind_eq_ok.mp h
    cases h
    obtain ⟨first, rfl, rfl⟩ := headLines_eq_ok.mp hlines
    obtain ⟨members, rfl, hcells⟩ := ih hothers
    refine ⟨first :: members, rfl, ?_⟩
    rw [List.flatten_cons, elements_append, elements_line_self, hcells]
    rfl

/-- The head cell of the selection, if it is on: it stands in front of those of the columns. -/
def selectHead (l : Layout) : List Element :=
  elements "th" (given l.selectable selectAllLines)

theorem selectHead_length (l : Layout) : (selectHead l).length = if l.selectable then 1 else 0 := by
  unfold selectHead
  cases l.selectable <;> rfl

/-- The head cell of the actions, if there are any: it stands behind those of the columns. -/
def actionsHead (l : Layout) : List Element :=
  elements "th" (given l.actions.truthy
    (line 12 (.element "th" [.classed "anti-table__th anti-table__th--actions"] [.text "Actions"])))

/-- The head has the cells of the columns, and nothing of it is in the body. -/
theorem headSection_eq_ok {l : Layout} {head : Markup} (h : headSection l = .ok head) :
    within "tbody" head = [] ∧ ∃ members : List Members, l.columns = members.map .object ∧
      elements "th" (within "tr" (within "thead" head)) =
        if members = [] then [] else selectHead l ++ members.map (headCell l) ++ actionsHead l := by
  unfold headSection at h
  split at h
  · rename_i hempty
    cases h
    exact ⟨rfl, [], List.isEmpty_iff.mp hempty, rfl⟩
  · rename_i hcolumns
    obtain ⟨cells, hcells, h⟩ := except_bind_eq_ok.mp h
    cases h
    obtain ⟨members, hmembers, hth⟩ := mapM_headLines_eq_ok hcells
    have hne : members ≠ [] := by
      rintro rfl
      exact hcolumns (List.isEmpty_iff.mpr hmembers)
    refine ⟨within_blockLine_ne _ (by decide) _ _ _, members, hmembers, ?_⟩
    rw [if_neg hne]
    simp [hth, selectHead, actionsHead]

/-! ### The whole table -/

/-- The lines of the body: those of the rows of the data or, without any, the row for that case. -/
def bodyLines (c : Composition) (l : Layout) (props : Members) : Render Markup :=
  if (props.get "data").truthy then do allRowLines c l (← items (props.get "data")) else emptyRow c l props

/-- The markup around head and body. -/
def frame (props : Members) (head body : Markup) : Markup :=
  [block 0 "div" (.classed "anti-table-wrap" :: editable props)
    (line 0 (block 0 "table" [.classed "anti-table"]
      (head ++ blockLine 4 "tbody" [.classed "anti-table__body"] body)))]

theorem template_eq (c : Composition) (props : Members) :
    template c props = do
      let l ← Layout.ofProps props
      let head ← headSection l
      let body ← bodyLines c l props
      return frame props head body := by
  refine bind_congr fun l => bind_congr fun head => ?_
  unfold bodyLines
  rw [Value.truthy_orElse_nil]
  split
  · rename_i htruthy
    rw [Value.orElse, if_pos htruthy, bind_assoc]
    rfl
  · rfl

/-- What a table shows: the cells of its head and the rows of its body. -/
theorem template_eq_ok {c : Composition} {props : Members} {m : Markup} (h : (template c props).result = .ok m) :
    ∃ (columns : List Members) (l : Layout) (body : Markup),
      (props.get "columns").orElse (.list []) = .list (columns.map .object) ∧ l = .ofColumns (columns.map .object) props ∧
      headCells m = (if columns = [] then [] else selectHead l ++ columns.map (headCell l) ++ actionsHead l) ∧
      (bodyLines c l props).result = .ok body ∧ bodyRows m = elements "tr" body := by
  rw [template_eq] at h
  obtain ⟨l, hl, h⟩ := Render.bind_eq_ok.mp h
  obtain ⟨_, hcolumns, rfl⟩ := Layout.ofProps_eq_ok.mp hl
  obtain ⟨head, hhead, h⟩ := Render.bind_eq_ok.mp h
  obtain ⟨body, hbody, h⟩ := Render.bind_eq_ok.mp h
  cases h
  obtain ⟨htbody, columns, rfl, hth⟩ := headSection_eq_ok hhead
  have htable : within "table" (within "div" (frame props head body)) =
      newline :: (head ++ blockLine 4 "tbody" [.classed "anti-table__body"] body) ++ [pad 0] := by
    have hline : ∀ content, line 0 (block 0 "table" [.classed "anti-table"] content) =
      blockLine 0 "table" [.classed "anti-table"] content := fun _ => rfl
    simp [frame, hline]
  refine ⟨columns, _, body, Value.orElse_nil_eq_list hcolumns, rfl, ?_, hbody, ?_⟩
  · rw [headCells, htable, ← hth]
    simp [within_blockLine_ne]
  · rw [bodyRows, htable]
    simp [htbody]

end DataTable
end DesignKit
