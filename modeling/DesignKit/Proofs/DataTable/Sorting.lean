import DesignKit.Proofs.DataTable.Head
import Mathlib.Data.List.Forall2

/-! # The mark of the sorted column

A column is marked when it may be sorted and its key is the one by which the table is sorted. A column without
a key counts as one with an empty key, and a table that is sorted by nothing as one that is sorted by the empty
key: so there the columns without a key are marked. -/

namespace DesignKit

/-- An element has a class. -/
def Element.hasClass (e : Element) (name : String) : Bool :=
  (e.attribute? "class").any fun list => decide (ClassList.Has list name)

namespace DataTable
open Helper Markup

/-- The table and a column are sortable. -/
def Sortable (bag column : Members) : Prop :=
  flag (bag.get "sortable") = true ∧ flag (column.get "sortable") = true

/-- The table is sorted by the key of a column. -/
def SortedBy (bag column : Members) : Prop :=
  Sortable bag column ∧ (bag.get "sort_by").truthy = true ∧
    ∃ key, column.get? "key" = some key ∧ key.same (bag.get "sort_by") = true

/-- The table is sorted by nothing, and a column has no key or an empty one. -/
def SortedByNothing (bag column : Members) : Prop :=
  Sortable bag column ∧ (bag.get "sort_by").truthy = false ∧
    (column.get? "key" = none ∨ column.get? "key" = some (.text ""))

/-- The table counts as sorted by a column. -/
def CountsAsSorted (bag column : Members) : Prop :=
  SortedBy bag column ∨ SortedByNothing bag column

/-- A text is the only value that is equal to it. -/
theorem same_text {v : Value} {s : String} : v.same (.text s) = true ↔ v = .text s := by
  cases v <;> simp [Value.same, Value.sameNumber, Value.int?]

theorem empty_same {v : Value} (hv : v.truthy = true) : (Value.text "").same v = false := by
  cases v with
  | text s =>
    have hs : s ≠ "" := by simpa [Value.truthy] using hv
    simpa [Value.same] using hs.symm
  | _ => simp [Value.same]

theorem marks_ofColumns {columns : List Value} {bag column : Members} :
    marks (.ofColumns columns bag) column = true ↔ CountsAsSorted bag column := by
  have hkey : (column.getD "key" (.text "")).same ((bag.get "sort_by").orElse (.text "")) = true ↔
      ((bag.get "sort_by").truthy = true ∧ ∃ key, column.get? "key" = some key ∧ key.same (bag.get "sort_by") = true) ∨
      ((bag.get "sort_by").truthy = false ∧ (column.get? "key" = none ∨ column.get? "key" = some (.text ""))) := by
    unfold Members.getD Value.orElse
    cases hby : (bag.get "sort_by").truthy with
    | true => cases column.get? "key" <;> simp [empty_same hby]
    | false => cases column.get? "key" <;> simp [same_text]
  simp only [marks, sorts, Layout.ofColumns, Bool.and_eq_true, hkey, CountsAsSorted, SortedBy, SortedByNothing, Sortable,
    and_or_left]

/-! ### The class -/

/-- The alignment of a column brings the class of the sorted column along: it is a text with blanks, behind one of
which that class stands. -/
def BringsSorted (column : Members) : Prop :=
  (columnAlignment column).print ≠ "sorted" ∧
    ClassList.Has ("anti-table__th--" ++ (columnAlignment column).print) "anti-table__th--sorted"

theorem alignmentName_eq {column : Members} :
    "anti-table__th--" ++ (columnAlignment column).print = "anti-table__th--sorted" ↔
      (columnAlignment column).print = "sorted" := by
  rw [show "anti-table__th--sorted" = "anti-table__th--" ++ "sorted" from rfl, String.append_right_inj]

/-- Without blanks an alignment brings nothing along. -/
theorem BringsSorted.blank {column : Members} (h : BringsSorted column) :
    (columnAlignment column).print.toList.any ClassList.separates = true := by
  obtain ⟨hne, hhas⟩ := h
  by_contra hplain
  have hone : ("anti-table__th--" ++ (columnAlignment column).print).toList.any ClassList.separates = false := by
    rw [String.toList_append, List.any_append, Bool.eq_false_iff.mpr hplain]
    rfl
  exact hne (alignmentName_eq.mp ((ClassList.has_iff_eq hone).mp hhas).symm)

section
variable {l : Layout} {column : Members}

theorem sorted_mem_chosen : "anti-table__th--sorted" ∈ chosen (headConditions l column) ↔ marks l column = true := by
  simp [mem_chosen, headConditions]

theorem chosen_headConditions_ne_nil : chosen (headConditions l column) ≠ [] := by
  have hname : "anti-table__th" ≠ "anti-table__th--" ++ (columnAlignment column).print := by
    intro h
    have hlength := congrArg String.length h
    rw [String.length_append, show "anti-table__th".length = 14 from rfl, show "anti-table__th--".length = 16 from rfl] at hlength
    omega
  refine List.ne_nil_of_mem (a := "anti-table__th") (mem_chosen.mpr ⟨by decide, ?_⟩)
  simp [headConditions, List.lookup_cons, beq_false_of_ne hname]

/-- The alignment's own class is in the list where it matters: the other names that it may be equal to do not have
the class of the sorted column. -/
theorem BringsSorted.mem_chosen (h : BringsSorted column) :
    "anti-table__th--" ++ (columnAlignment column).print ∈ chosen (headConditions l column) := by
  have hsorted := mt alignmentName_eq.mp h.1
  have hsortable : "anti-table__th--" ++ (columnAlignment column).print ≠ "anti-table__th--sortable" := by
    intro heq
    have hhas := h.2
    rw [heq] at hhas
    exact absurd hhas (by decide)
  have hleft : (columnAlignment column).same (.text "left") = false := by
    refine Bool.eq_false_iff.mpr fun hsame => ?_
    have hhas := h.2
    rw [same_text.mp hsame] at hhas
    exact absurd hhas (by decide)
  have hname : "anti-table__th--" ++ (columnAlignment column).print ≠ "" := by
    simp
  refine Helper.mem_chosen.mpr ⟨hname, ?_⟩
  simp [headConditions, List.lookup_cons, beq_false_of_ne hsorted, beq_false_of_ne hsortable, hleft]

/-- A head cell has the class of the sorted column when the column is marked, or when its alignment brings that
class along. -/
theorem has_headClasses : ClassList.Has (headClasses l column) "anti-table__th--sorted" ↔
    marks l column = true ∨ BringsSorted column := by
  rw [headClasses, ClassList.has_intercalate chosen_headConditions_ne_nil]
  constructor
  · rintro ⟨part, hchosen, hhas⟩
    have hpart : part ∈ (headConditions l column).map (·.1) :=
      List.mem_map_of_mem (List.mem_reverse.mp (mem_of_lookup (mem_chosen.mp hchosen).2))
    -- Of the four names two do not have the class; the alignment's own name may be the class, or bring it along.
    rcases (by simpa [headConditions] using hpart : part = "anti-table__th" ∨
      part = "anti-table__th--" ++ (columnAlignment column).print ∨ part = "anti-table__th--sortable" ∨
      part = "anti-table__th--sorted") with rfl | rfl | rfl | rfl
    · exact absurd hhas (by decide)
    · by_cases hprint : (columnAlignment column).print = "sorted"
      · rw [alignmentName_eq.mpr hprint] at hchosen
        exact .inl (sorted_mem_chosen.mp hchosen)
      · exact .inr ⟨hprint, hhas⟩
    · exact absurd hhas (by decide)
    · exact .inl (sorted_mem_chosen.mp hchosen)
  · rintro (hmarks | hbrings)
    · exact ⟨_, sorted_mem_chosen.mpr hmarks, by decide⟩
    · exact ⟨_, hbrings.mem_chosen, hbrings.2⟩

end

/-! ### Head cells -/

/-- A head cell has the sort icon. -/
def hasSortIcon (cell : Element) : Bool :=
  (cell.content.elements "span").any (·.hasClass "anti-table__sort-icon")

theorem hasClass_of_attribute? {e : Element} {list : String} (h : e.attribute? "class" = some list) (name : String) :
    e.hasClass name = true ↔ ClassList.Has list name := by
  rw [Element.hasClass, h, Option.any_some, decide_eq_true_iff]

theorem hasSortIcon_headCell (l : Layout) (column : Members) : hasSortIcon (headCell l column) = marks l column := by
  have hicon : elements "span" (headCell l column).content =
      elements "span" (given (marks l column) (line 16 (sortIcon l))) :=
    (elements_block_content _ _ _).trans (elements_append _ _ _)
  rw [hasSortIcon, hicon]
  cases marks l column with
  | false => rfl
  | true =>
    rw [given, if_pos rfl, sortIcon, elements_line_self, List.any_cons, List.any_nil, Bool.or_false]
    exact (hasClass_of_attribute? rfl _).mpr (by decide)

/-- What marks the head cell of a column: the icon when the table counts as sorted by the column, and the class then
too, or when the alignment brings it along. -/
structure SortMarks (bag column : Members) (cell : Element) : Prop where
  icon : hasSortIcon cell = true ↔ CountsAsSorted bag column
  sorted : cell.hasClass "anti-table__th--sorted" = true ↔ CountsAsSorted bag column ∨ BringsSorted column
  plain : (columnAlignment column).print.toList.any ClassList.separates = false →
    (cell.hasClass "anti-table__th--sorted" = true ↔ CountsAsSorted bag column)

theorem sortMarks_headCell (columns : List Value) (bag column : Members) :
    SortMarks bag column (headCell (.ofColumns columns bag) column) := by
  have hsorted : (headCell (.ofColumns columns bag) column).hasClass "anti-table__th--sorted" = true ↔
      CountsAsSorted bag column ∨ BringsSorted column := by
    rw [hasClass_of_attribute? rfl, has_headClasses, marks_ofColumns]
  refine ⟨by rw [hasSortIcon_headCell, marks_ofColumns], hsorted, fun hplain => ?_⟩
  rw [hsorted, or_iff_left fun hbrings => absurd hbrings.blank (Bool.eq_false_iff.mp hplain)]

/-- A head cell without a mark. -/
def Unmarked (cell : Element) : Prop :=
  hasSortIcon cell = false ∧ cell.hasClass "anti-table__th--sorted" = false

theorem selectHead_unmarked (l : Layout) : ∀ cell ∈ selectHead l, Unmarked cell := by
  intro cell hcell
  rw [selectHead, elements_given] at hcell
  split at hcell
  · rw [selectAllLines, elements_blockLine_self, List.mem_singleton] at hcell
    subst hcell
    exact ⟨rfl, by decide⟩
  · cases hcell

theorem actionsHead_unmarked (l : Layout) : ∀ cell ∈ actionsHead l, Unmarked cell := by
  intro cell hcell
  rw [actionsHead, elements_given] at hcell
  split at hcell
  · rw [elements_line_self, List.mem_singleton] at hcell
    subst hcell
    exact ⟨rfl, by decide⟩
  · cases hcell

/-- A table marks the head cells of the columns by which it counts as sorted, and no others; but for a column whose
alignment has blanks in it, and the class of the sorted column behind one of them. -/
theorem marks_of_component {r : Renderer} {name : String} (hr : r.registry.find? name = some (.bundled .table))
    {levels : Nat} {props : Value} {m : Markup} (hm : (r.component (levels + 1) (.text name) props).result = .ok m)
    {bag : Members} (hbag : (r.fill name props).result = .ok bag) :
    ∃ columns : List Members, (bag.get "columns").orElse (.list []) = .list (columns.map .object) ∧
      ∃ select shown actions, headCells m = select ++ shown ++ actions ∧
        (columns ≠ [] → select.length = if flag (bag.get "selectable") then 1 else 0) ∧
        List.Forall₂ (SortMarks bag) columns shown ∧ ∀ cell ∈ select ++ actions, Unmarked cell := by
  rw [Renderer.result_component hr hbag] at hm
  obtain ⟨columns, l, body, hcolumns, rfl, hhead, -⟩ := template_eq_ok hm
  refine ⟨columns, hcolumns, ?_⟩
  rw [hhead]
  split
  · rename_i hnone
    rw [hnone]
    exact ⟨[], [], [], rfl, fun h => absurd rfl h, .nil, nofun⟩
  · refine ⟨_, _, _, rfl, fun _ => selectHead_length _, ?_, ?_⟩
    · rw [List.forall₂_map_right_iff, List.forall₂_same]
      exact fun column _ => sortMarks_headCell _ bag column
    · intro cell hcell
      exact (List.mem_append.mp hcell).elim (selectHead_unmarked _ cell) (actionsHead_unmarked _ cell)

theorem marks_of_component_name :
    ∃ m, ((Renderer.bundle .refuse).component 2 (.text "table") (.object [("sortable", .bool true),
        ("sort_by", .text "name"), ("columns", .list [.object [("sortable", .text "yes"), ("key", .text "name")]])])).result =
      .ok m ∧ ∃ cell actions, headCells m = cell :: actions ∧ hasSortIcon cell = true ∧
        cell.hasClass "anti-table__th--sorted" = true ∧ ∀ other ∈ actions, Unmarked other := by
  refine exists_ok (by decide +kernel) fun m hm => ?_
  obtain ⟨columns, hcolumns, select, shown, actions, hhead, hselect, hshown, hothers⟩ :=
    marks_of_component (r := Renderer.bundle .refuse) rfl hm rfl
  obtain ⟨column, rfl, ⟨⟩⟩ := List.map_eq_singleton_iff.mp (Value.list.inj hcolumns).symm
  obtain ⟨cell, _, hmarks, hnone, rfl⟩ := List.forall₂_cons_left_iff.mp hshown
  rw [List.forall₂_nil_left_iff.mp hnone, List.length_eq_zero_iff.mp (hselect (List.cons_ne_nil _ _))] at hhead
  have hsorted : CountsAsSorted (schema.handed [("sortable", .bool true), ("sort_by", .text "name"),
      ("columns", .list [.object [("sortable", .text "yes"), ("key", .text "name")]])])
      [("sortable", .text "yes"), ("key", .text "name")] :=
    .inl ⟨⟨rfl, by decide⟩, rfl, _, rfl, by decide⟩
  exact ⟨cell, actions, hhead, hmarks.icon.mpr hsorted, (hmarks.plain (by decide)).mpr hsorted,
    fun other hother => hothers other (List.mem_append_right _ hother)⟩

/-- A table that is sorted by nothing marks a column without a key. -/
theorem marks_without_key :
    ∃ m cell, ((Renderer.bundle .refuse).component 2 (.text "table") (.object [("sortable", .bool true),
        ("columns", .list [.object [("label", .text "A"), ("sortable", .bool true)]])])).result = .ok m ∧
      headCells m = [cell] ∧ hasSortIcon cell = true ∧ cell.hasClass "anti-table__th--sorted" = true ∧
      ¬ SortedBy (schema.handed [("sortable", .bool true),
        ("columns", .list [.object [("label", .text "A"), ("sortable", .bool true)]])])
        [("label", .text "A"), ("sortable", .bool true)] :=
  ⟨_, _, rfl, rfl, by decide, by decide, fun h => absurd h.2.1 (by decide)⟩

end DataTable
end DesignKit
