import DesignKit.Proofs.Catalog.Origin

/-! # Stylesheets and style variants

The text of the stylesheets has one section for each of the sheets that there are, component by component. A name
under which a variant can be listed leads to a sheet exactly where the component lists it, and to none outside of the
component's own directory. The path is built from the name alone, so other names lead elsewhere: the name of the
shared stylesheet to that sheet once more, and a name with slashes to any file with the ending. -/

namespace DesignKit

/-! ### Listed names -/

namespace FileTree
variable {t : FileTree} {p : Path} {name : String}

theorem nameIn?_eq_some {here place : Path} (h : nameIn? here place = some name) : place = here.child name := by
  unfold nameIn? at h
  split at h
  · rename_i hhere
    rw [Bool.and_eq_true_iff, beq_iff_eq, beq_iff_eq] at hhere
    obtain ⟨anchor, names⟩ := place
    obtain ⟨rfl, hnames⟩ := hhere
    obtain ⟨before, rfl⟩ := List.getLast?_eq_some_iff.mp h
    rw [List.dropLast_concat] at hnames
    rw [Path.child, ← hnames]
  · cases h

/-- A name is listed in the directory that a path leads to if there is something at the place under it. -/
theorem mem_names : name ∈ t.names p ↔ ∃ here, t.locate p = .ok here ∧ (t.node? (here.child name)).isSome = true := by
  unfold names
  cases t.locate p with
  | error fault => simp
  | ok here =>
    simp only [Except.ok.injEq, exists_eq_left', node?_child, List.mem_filterMap]
    constructor
    · rintro ⟨⟨place, node⟩, hmem, hname⟩
      obtain rfl := nameIn?_eq_some hname
      exact List.lookup_isSome_iff.mpr ⟨_, hmem, beq_self_eq_true _⟩
    · intro h
      obtain ⟨node, hnode⟩ := Option.isSome_iff_exists.mp h
      exact ⟨(here.child name, node), mem_of_lookup hnode, nameIn?_child here name⟩

theorem isFile_eq_true : t.isFile p = true ↔ ∃ place bytes, t.locate p = .ok place ∧ t.node? place = some (.file bytes) := by
  unfold isFile find?
  cases t.locate p with
  | error fault => simp
  | ok place =>
    cases hnode : t.node? place with
    | none => simp [hnode]
    | some node => cases node <;> simp [hnode]

theorem isDirectory_eq_true :
    t.isDirectory p = true ↔ ∃ place, t.locate p = .ok place ∧ t.node? place = some .directory := by
  unfold isDirectory find?
  cases t.locate p with
  | error fault => simp
  | ok place =>
    cases hnode : t.node? place with
    | none => simp [hnode]
    | some node => cases node <;> simp [hnode]

theorem locate_child_of_directory {here : Path} (hname : name ≠ "..") (hp : t.locate p = .ok here)
    (hnode : t.node? here = some .directory) : t.locate (p.child name) = .ok (here.child name) := by
  have hne : (name == "..") = false := by simpa using hname
  rw [locate_child, hp]
  show t.follow here [name] = _
  simp only [follow, hnode, hne, Bool.false_eq_true, if_false]

/-- In a directory a name leads to a file exactly if it is listed and leads to no directory. -/
theorem isFile_child (hname : name ≠ "..") : t.isFile (p.child name) = true ↔
    name ∈ t.names p ∧ t.isDirectory p = true ∧ t.isDirectory (p.child name) = false := by
  rw [← Bool.not_eq_true, mem_names, isFile_eq_true, isDirectory_eq_true, isDirectory_eq_true]
  constructor
  · rintro ⟨place, bytes, hplace, hnode⟩
    obtain ⟨here, hhere, hdirectory, rfl⟩ := t.locate_child_eq_ok hname hplace
    refine ⟨⟨here, hhere, by rw [hnode]; rfl⟩, ⟨here, hhere, hdirectory⟩, ?_⟩
    rintro ⟨place, hplace', hnode'⟩
    obtain rfl := Except.ok.inj (hplace.symm.trans hplace')
    rw [hnode] at hnode'
    cases hnode'
  · rintro ⟨⟨here, hhere, hsome⟩, ⟨there, hthere, hdirectory⟩, hnot⟩
    obtain rfl := Except.ok.inj (hhere.symm.trans hthere)
    have hplace := locate_child_of_directory hname hhere hdirectory
    obtain ⟨node, hnode⟩ := Option.isSome_iff_exists.mp hsome
    cases node with
    | directory => exact absurd ⟨_, hplace, hnode⟩ hnot
    | file bytes => exact ⟨_, bytes, hplace, hnode⟩

end FileTree

namespace Catalog
variable {c : Catalog} {t : FileTree} {name style : String} {directory : Path}

/-! ### Names of variants -/

/-- A name under which a style variant can be listed. A file that is called by the ending alone is listed under its whole
name, which is not the name that leads to it. -/
structure IsVariant (style : String) : Prop where
  nonempty : style ≠ ""
  plain : '/' ∉ style.toList
  shown : style.toList.head? ≠ some '_'
  named : style ≠ Layout.styleEnding

instance (style : String) : Decidable (IsVariant style) :=
  decidable_of_iff (style ≠ "" ∧ '/' ∉ style.toList ∧ style.toList.head? ≠ some '_' ∧ style ≠ Layout.styleEnding)
    ⟨fun ⟨h₁, h₂, h₃, h₄⟩ => ⟨h₁, h₂, h₃, h₄⟩, fun ⟨h₁, h₂, h₃, h₄⟩ => ⟨h₁, h₂, h₃, h₄⟩⟩

theorem styleOf?_append (stem : String) :
    styleOf? (stem ++ Layout.styleEnding) = some (if stem = "" then Layout.styleEnding else stem) := by
  have hsuffix : Layout.styleEnding.toList.isSuffixOf (stem ++ Layout.styleEnding).toList = true := by
    rw [String.toList_append, List.isSuffixOf_iff_suffix]
    exact List.suffix_append _ _
  have htake : String.ofList ((stem ++ Layout.styleEnding).toList.take
      ((stem ++ Layout.styleEnding).toList.length - Layout.styleEnding.toList.length)) = stem := by
    rw [String.toList_append, List.length_append, Nat.add_sub_cancel, List.take_left, String.ofList_toList]
  unfold styleOf?
  simp only [hsuffix, htake, Bool.not_true, Bool.false_eq_true, if_false]
  by_cases hstem : stem = ""
  · subst hstem
    rfl
  · have hne : ((stem ++ Layout.styleEnding).toList == Layout.styleEnding.toList) = false := by
      simpa [String.toList_append] using hstem
    rw [hne, if_neg Bool.false_ne_true, if_neg hstem]

theorem exists_stem_of_styleOf? {file : String} (h : styleOf? file = some style) :
    ∃ stem, file = stem ++ Layout.styleEnding := by
  unfold styleOf? at h
  simp only at h
  split at h
  · cases h
  · rename_i hsuffix
    rw [Bool.not_eq_true, Bool.not_eq_false', List.isSuffixOf_iff_suffix] at hsuffix
    obtain ⟨stem, hfile⟩ := hsuffix
    refine ⟨String.ofList stem, ?_⟩
    rw [← String.toList_inj, String.toList_append, String.toList_ofList, hfile]

theorem styleOf?_eq_some (h : IsVariant style) {file : String} :
    styleOf? file = some style ↔ file = style ++ Layout.styleEnding := by
  constructor
  · intro hstyle
    obtain ⟨stem, rfl⟩ := exists_stem_of_styleOf? hstyle
    rw [styleOf?_append, Option.some.injEq] at hstyle
    by_cases hstem : stem = ""
    · rw [if_pos hstem] at hstyle
      exact absurd hstyle.symm h.named
    · rw [if_neg hstem] at hstyle
      rw [hstyle]
  · rintro rfl
    rw [styleOf?_append, if_neg h.nonempty]

/-- A component lists a variant if its directory of stylesheets lists the file. -/
theorem mem_styles (h : IsVariant style) (hdirectory : c.directory? t name = some directory) :
    style ∈ c.styles t name ↔ style ++ Layout.styleEnding ∈ t.names (Layout.styles directory) := by
  simp only [styles, hdirectory, List.mem_mergeSort, List.mem_filter, List.mem_filterMap, styleOf?_eq_some h]
  simp [h.shown]

/-- The sheet of a variant is there exactly if the component lists the variant and what is listed is a file. -/
theorem isFile_stylesheet (h : IsVariant style) (hdirectory : c.directory? t name = some directory) :
    t.isFile (Layout.stylesheet directory style) = true ↔ style ∈ c.styles t name ∧
      t.isDirectory (Layout.styles directory) = true ∧ t.isDirectory (Layout.stylesheet directory style) = false := by
  rw [stylesheet_plain directory h.plain, mem_styles h hdirectory]
  exact FileTree.isFile_child (append_ne_above (by decide) style)

/-! ### Sheets -/

/-- A sheet of a component: its directory, the name of the sheet in it, and what it is called. -/
structure Sheet where
  name : String
  directory : Path
  style : String
  label : String

/-- Where a sheet is looked for. -/
def Sheet.path (s : Sheet) : Path :=
  Layout.stylesheet s.directory s.style

/-- The section of a sheet. -/
def Sheet.lines (t : FileTree) (s : Sheet) : Except Fault (List String) :=
  sectionLines s.name s.label <$> t.read s.path

/-- The sheets of a component that are there: the shared one before that of the style. -/
def sheetsOf (c : Catalog) (t : FileTree) (style name : String) : List Sheet :=
  match c.directory? t name with
  | none => []
  | some directory =>
    [⟨name, directory, Layout.baseStyle, "base"⟩, ⟨name, directory, style, style⟩].filter fun s => t.isFile s.path

/-- The sheets of all components, in the order of the components' names. -/
def sheets (c : Catalog) (t : FileTree) (style : String) : List Sheet :=
  (c.names t).flatMap (c.sheetsOf t style)

theorem sheetLines_eq (t : FileTree) (s : Sheet) : sheetLines t s.name s.directory s.style s.label =
    List.flatten <$> ([s].filter fun s => t.isFile s.path).mapM (Sheet.lines t) := by
  unfold sheetLines
  simp only
  change (if t.isFile s.path then sectionLines s.name s.label <$> t.read s.path else .ok []) = _
  cases hfile : t.isFile s.path with
  | false => simp only [List.filter_cons, hfile, List.filter_nil]; rfl
  | true =>
    simp only [List.filter_cons, hfile, List.filter_nil, if_true, List.mapM_cons, List.mapM_nil, Sheet.lines]
    cases t.read s.path with
    | error fault => rfl
    | ok text => rfl

theorem mapM_flatten_append {α β : Type} (f : α → Except Fault (List β)) (l l' : List α) :
    List.flatten <$> (l ++ l').mapM f = do
      let first ← List.flatten <$> l.mapM f
      let second ← List.flatten <$> l'.mapM f
      return first ++ second := by
  rw [List.mapM_append]
  cases l.mapM f with
  | error fault => rfl
  | ok first =>
    cases l'.mapM f with
    | error fault => rfl
    | ok second => exact congrArg Except.ok List.flatten_append

/-- The lines of a component are the sections of its sheets, one below the other. -/
theorem componentLines_eq (c : Catalog) (t : FileTree) (style name : String) :
    c.componentLines t style name = List.flatten <$> (c.sheetsOf t style name).mapM (Sheet.lines t) := by
  unfold componentLines sheetsOf
  cases c.directory? t name with
  | none => rfl
  | some directory =>
    have hbase := sheetLines_eq t ⟨name, directory, Layout.baseStyle, "base"⟩
    have hvariant := sheetLines_eq t ⟨name, directory, style, style⟩
    simp only at hbase hvariant ⊢
    rw [← List.singleton_append, List.filter_append, mapM_flatten_append, hbase, hvariant]

theorem mapM_componentLines (c : Catalog) (t : FileTree) (style : String) (names : List String) :
    List.flatten <$> names.mapM (c.componentLines t style) =
      List.flatten <$> (names.flatMap (c.sheetsOf t style)).mapM (Sheet.lines t) := by
  induction names with
  | nil => rfl
  | cons name rest ih =>
    have hfirst : List.flatten <$> [name].mapM (c.componentLines t style) = c.componentLines t style name := by
      rw [List.mapM_cons, List.mapM_nil]
      cases c.componentLines t style name with
      | error fault => rfl
      | ok lines => exact congrArg Except.ok (List.append_nil lines)
    rw [← List.singleton_append, mapM_flatten_append, hfirst, List.singleton_append, List.flatMap_cons, mapM_flatten_append,
      ← ih, ← componentLines_eq]

/-- The text is put together from the sections of the sheets and from nothing else. -/
theorem css_eq (c : Catalog) (t : FileTree) (style : String) : c.css t style =
    (fun sections => "\n".intercalate sections.flatten) <$> (c.sheets t style).mapM (Sheet.lines t) := by
  have hmap : ∀ x : Except Fault (List (List String)),
      (fun sections => "\n".intercalate sections.flatten) <$> x = ("\n".intercalate ·) <$> (List.flatten <$> x) := by
    intro x
    cases x <;> rfl
  rw [sheets, hmap, ← mapM_componentLines, ← hmap, css]
  cases (c.names t).mapM (c.componentLines t style) <;> rfl

/-! ### Places -/

/-- The directory of a component is called like the component. -/
theorem directory?_eq_some (h : c.directory? t name = some directory) :
    isName name = true ∧ ∃ base ∈ c.directories, directory = base.child name := by
  unfold directory? at h
  split at h
  · rename_i hname
    obtain ⟨base, hbase, hchild⟩ := List.mem_map.mp (List.mem_of_find?_eq_some h)
    exact ⟨hname, base, hbase, hchild.symm⟩
  · cases h

theorem of_mem_sheetsOf {s : Sheet} (h : s ∈ c.sheetsOf t style name) : s.name = name ∧
    c.directory? t name = some s.directory ∧ (s.style = Layout.baseStyle ∨ s.style = style) ∧ t.isFile s.path = true := by
  unfold sheetsOf at h
  split at h
  · cases h
  · rename_i directory hdirectory
    obtain ⟨h, hfile⟩ := List.mem_filter.mp h
    rcases List.mem_cons.mp h with rfl | h
    · exact ⟨rfl, hdirectory, .inl rfl, hfile⟩
    · obtain rfl := List.mem_singleton.mp h
      exact ⟨rfl, hdirectory, .inr rfl, hfile⟩

theorem of_mem_sheets {s : Sheet} (h : s ∈ c.sheets t style) : c.directory? t s.name = some s.directory ∧
    (s.style = Layout.baseStyle ∨ s.style = style) ∧ t.isFile s.path = true := by
  obtain ⟨name, -, h⟩ := List.mem_flatMap.mp h
  obtain ⟨rfl, h⟩ := of_mem_sheetsOf h
  exact h

/-- A sheet with a plain name lies in the directory of the stylesheets of its own component. -/
theorem path_sheet (hstyle : IsVariant style) {s : Sheet} (h : s ∈ c.sheets t style) :
    s.path = (Layout.styles s.directory).child (s.style ++ Layout.styleEnding) := by
  obtain ⟨-, hname, -⟩ := of_mem_sheets h
  have hplain : '/' ∉ s.style.toList := by
    rcases hname with hname | hname
    · rw [hname]
      decide
    · rw [hname]
      exact hstyle.plain
  exact stylesheet_plain s.directory hplain

theorem locate_sheet (hstyle : IsVariant style) {s : Sheet} (h : s ∈ c.sheets t style) : ∃ base : Path,
    t.locate s.path = .ok (((base.child s.name).child "styles").child (s.style ++ Layout.styleEnding)) := by
  obtain ⟨hdirectory, -, hfile⟩ := of_mem_sheets h
  obtain ⟨hname, base, -, hbase⟩ := directory?_eq_some hdirectory
  have habove : s.name ≠ ".." := by
    intro heq
    rw [heq] at hname
    cases hname
  obtain ⟨place, bytes, hplace, -⟩ := FileTree.isFile_eq_true.mp hfile
  have hpath := hplace
  rw [path_sheet hstyle h, hbase] at hpath
  obtain ⟨inStyles, hstyles, -, rfl⟩ := t.locate_child_eq_ok (append_ne_above (by decide) s.style) hpath
  obtain ⟨inComponent, hcomponent, -, rfl⟩ := t.locate_child_eq_ok (by decide) hstyles
  obtain ⟨here, -, -, rfl⟩ := t.locate_child_eq_ok habove hcomponent
  exact ⟨here, hplace⟩

theorem child_inj {p q : Path} {n m : String} (h : p.child n = q.child m) : p = q ∧ n = m := by
  obtain ⟨anchor, names⟩ := p
  obtain ⟨anchor', names'⟩ := q
  obtain ⟨rfl, hnames⟩ := Path.mk.inj h
  obtain ⟨rfl, hlast⟩ := List.append_inj' hnames rfl
  exact ⟨rfl, List.head_eq_of_cons_eq hlast⟩

/-- Two sheets are of two components or have two names. -/
theorem sheets_distinct (hstyle : style ≠ Layout.baseStyle) :
    (c.sheets t style).Pairwise fun s s' => ¬ (s.name = s'.name ∧ s.style = s'.style) := by
  refine List.pairwise_flatMap.mpr ⟨fun name _ => ?_, (c.names_ascending t).imp fun hlt s hs s' hs' heq => ?_⟩
  · unfold sheetsOf
    split
    · exact .nil
    · refine List.Pairwise.filter _ ?_
      simp [Ne.symm hstyle]
  · obtain ⟨rfl, -⟩ := of_mem_sheetsOf hs
    obtain ⟨rfl, -⟩ := of_mem_sheetsOf hs'
    rw [heq.1] at hlt
    exact String.lt_irrefl _ hlt

/-- No two sheets lie at the same place. -/
theorem nodup_places (hstyle : IsVariant style) : ((c.sheets t style).map fun s => t.locate s.path).Nodup := by
  have hne : style ≠ Layout.baseStyle := fun heq => hstyle.shown (by rw [heq]; decide)
  refine List.pairwise_map.mpr ((sheets_distinct hne).imp_of_mem fun {s s'} hs hs' hdistinct hplace => hdistinct ?_)
  obtain ⟨base, hbase⟩ := locate_sheet hstyle hs
  obtain ⟨base', hbase'⟩ := locate_sheet hstyle hs'
  rw [hbase, hbase'] at hplace
  obtain ⟨hstyles, hfile⟩ := child_inj (Except.ok.inj hplace)
  obtain ⟨hcomponent, -⟩ := child_inj hstyles
  obtain ⟨-, hname⟩ := child_inj hcomponent
  exact ⟨hname, String.append_left_inj _ |>.mp hfile⟩

/-- The text has the sections of the sheets that are there, component by component in ascending order, the shared sheet
before that of the style. A name of a variant has a section for a component exactly if the component lists it and what
is listed is a file; then every sheet that is read lies directly in the directory of the stylesheets of its
component, and none is read twice. -/
theorem css_of_sheets (c : Catalog) (t : FileTree) (style : String) :
    c.css t style = (fun sections => "\n".intercalate sections.flatten) <$> (c.sheets t style).mapM (Sheet.lines t) ∧
    (c.names t).Pairwise (· < ·) ∧
    (IsVariant style →
      (∀ name directory, c.directory? t name = some directory →
        (t.isFile (Layout.stylesheet directory style) = true ↔ style ∈ c.styles t name ∧
          t.isDirectory (Layout.styles directory) = true ∧ t.isDirectory (Layout.stylesheet directory style) = false)) ∧
      (∀ s ∈ c.sheets t style, c.directory? t s.name = some s.directory ∧
        s.path = (Layout.styles s.directory).child (s.style ++ Layout.styleEnding)) ∧
      ((c.sheets t style).map fun s => t.locate s.path).Nodup) := by
  refine ⟨c.css_eq t style, c.names_ascending t, fun h => ⟨fun name directory hdirectory => isFile_stylesheet h hdirectory,
    fun s hs => ⟨(of_mem_sheets hs).1, path_sheet h hs⟩, nodup_places h⟩⟩

/-- One directory of components. -/
def shelf : Catalog := ⟨[⟨.working, ["components"]⟩]⟩

/-- The files of a component with a variant, and a stylesheet that belongs to no component. -/
def shelfFiles : FileTree :=
  let components : Path := ⟨.project, ["components"]⟩
  let a := components.child "a"
  ⟨[], [(components, .directory), (a, .directory), (Layout.schemaFile a "a", .ofText "\x7b\x7d"),
    (Layout.styles a, .directory), ((Layout.styles a).child "_base.css", .ofText "x\n"),
    ((Layout.styles a).child "plato.css", .ofText "y"), (⟨.project, ["other.css"]⟩, .ofText "z")]⟩

theorem names_shelf : shelf.names shelfFiles = ["a"] := by
  have hfound : shelf.directories.flatMap (names.found shelfFiles) = ["a"] := rfl
  simp [names, hfound, List.eraseDups_cons]

theorem css_of_sheets_plato :
    shelf.css shelfFiles "plato" = .ok "/* a: base */\nx\n\n/* a: plato */\ny\n" ∧
      "plato" ∈ shelf.styles shelfFiles "a" ∧
      ((shelf.sheets shelfFiles "plato").map fun s => shelfFiles.locate s.path).Nodup := by
  obtain ⟨hcss, -, hvariant⟩ := css_of_sheets shelf shelfFiles "plato"
  obtain ⟨hlisted, -, hplaces⟩ := hvariant (by decide)
  refine ⟨?_, ((hlisted "a" _ rfl).mp rfl).1, hplaces⟩
  rw [hcss, sheets, names_shelf]
  rfl

/-- Not every name for which there is a section is listed: that of the shared stylesheet has its section once more, and
a name with slashes has one for a file outside of all components. -/
theorem css_not_listed :
    ¬ (∀ (c : Catalog) (t : FileTree) (style name : String) (directory : Path), c.directory? t name = some directory →
      (t.isFile (Layout.stylesheet directory style) = true ↔ style ∈ c.styles t name)) ∧
    "_base" ∉ shelf.styles shelfFiles "a" ∧ "../../../other" ∉ shelf.styles shelfFiles "a" ∧
    shelf.css shelfFiles "_base" = .ok "/* a: base */\nx\n\n/* a: _base */\nx\n" ∧
    shelf.css shelfFiles "../../../other" = .ok "/* a: base */\nx\n\n/* a: ../../../other */\nz\n" := by
  have hvariants : ((shelfFiles.names (Layout.styles ⟨.working, ["components", "a"]⟩)).filterMap styleOf?).filter
      (fun style => style.toList.head? != some '_') = ["plato"] := rfl
  have hstyles : shelf.styles shelfFiles "a" = ["plato"] := by
    refine Eq.trans (congrArg (List.mergeSort · _) hvariants) ?_
    rw [List.mergeSort_singleton]
  have hbase : "_base" ∉ shelf.styles shelfFiles "a" := by
    rw [hstyles]
    decide
  have hother : "../../../other" ∉ shelf.styles shelfFiles "a" := by
    rw [hstyles]
    decide
  refine ⟨fun h => hbase ((h shelf shelfFiles "_base" "a" _ rfl).mp rfl), hbase, hother, ?_, ?_⟩
  · rw [css_eq, sheets, names_shelf]
    rfl
  · rw [css_eq, sheets, names_shelf]
    rfl

end Catalog
end DesignKit
