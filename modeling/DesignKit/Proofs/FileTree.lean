import DesignKit.FileTree
import DesignKit.Proofs.Members

/-! # Paths in a file tree

A path is followed name by name, so where a longer path leads is decided from where its beginning leads. What
is found below a directory is therefore listed in it. Directories are only made where nothing was, so making them
changes no file. -/

namespace DesignKit.FileTree
variable (t : FileTree)

theorem follow_append (here : Path) (names more : List String) :
    t.follow here (names ++ more) = t.follow here names >>= fun there => t.follow there more := by
  induction names generalizing here with
  | nil => rfl
  | cons name rest ih =>
    simp only [List.cons_append, follow]
    cases t.node? here with
    | none => rfl
    | some node =>
      cases node with
      | file bytes => rfl
      | directory =>
        by_cases hname : (name == "..") = true
        · simp only [hname, if_true]
          cases above here with
          | error fault => rfl
          | ok there => exact ih there
        · simp only [hname]
          exact ih (here.child name)

theorem locate_child (p : Path) (name : String) :
    t.locate (p.child name) = t.locate p >>= fun there => t.follow there [name] := by
  obtain ⟨anchor, names⟩ := p
  cases anchor with
  | working => exact (congrArg _ (List.append_assoc t.working names [name]).symm).trans (t.follow_append _ _ _)
  | project => exact t.follow_append _ _ _
  | root => exact t.follow_append _ _ _
  | bundled => exact t.follow_append _ _ _

/-- What a name leads to from a place: the node of that name in the directory at the place. -/
theorem follow_singleton {here there : Path} {name : String} (hname : name ≠ "..") (h : t.follow here [name] = .ok there) :
    t.node? here = some .directory ∧ there = here.child name := by
  have hne : (name == "..") = false := by simpa using hname
  simp only [follow] at h
  cases hnode : t.node? here with
  | none => simp [hnode] at h
  | some node =>
    cases node with
    | file bytes => simp [hnode] at h
    | directory =>
      simp only [hnode, hne, Bool.false_eq_true, if_false] at h
      exact ⟨rfl, (Except.ok.inj h).symm⟩

/-- A path with one name more leads to a place in the directory to which the path itself leads. -/
theorem locate_child_eq_ok {p place : Path} {name : String} (hname : name ≠ "..") (h : t.locate (p.child name) = .ok place) :
    ∃ here, t.locate p = .ok here ∧ t.node? here = some .directory ∧ place = here.child name := by
  rw [locate_child] at h
  cases hp : t.locate p with
  | error fault => rw [hp] at h; cases h
  | ok here =>
    rw [hp] at h
    exact ⟨here, rfl, t.follow_singleton hname h⟩

theorem nameIn?_child (here : Path) (name : String) : nameIn? here (here.child name) = some name := by
  simp [nameIn?, Path.child]

theorem node?_child (here : Path) (name : String) : t.node? (here.child name) = t.nodes.lookup (here.child name) := by
  simp [node?, Path.child]

/-- A path that leads to a file leads through directories, each listed in the one before. -/
theorem mem_names_of_isFile {p : Path} {name file : String} (hname : name ≠ "..") (hfile : file ≠ "..")
    (h : t.isFile ((p.child name).child file) = true) : name ∈ t.names p := by
  unfold isFile find? at h
  cases hplace : t.locate ((p.child name).child file) with
  | error fault => simp [hplace] at h
  | ok place =>
    obtain ⟨there, hthere, hnode, -⟩ := t.locate_child_eq_ok hfile hplace
    obtain ⟨here, hhere, -, rfl⟩ := t.locate_child_eq_ok hname hthere
    rw [node?_child] at hnode
    simp only [names, hhere]
    exact List.mem_filterMap.mpr ⟨_, mem_of_lookup hnode, nameIn?_child here name⟩

/-! ### Directories that are made -/

variable {t}

theorem node?_put (place : Path) (node : FileNode) {q : Path} (h : q ≠ place) : (t.put place node).node? q = t.node? q := by
  have hlookup : (t.put place node).nodes.lookup q = t.nodes.lookup q := by
    have hlast : [(place, node)].lookup q = none := by
      have hne : (q == place) = false := beq_false_of_ne h
      rw [List.lookup_cons, hne]
      rfl
    show (t.nodes.filter (·.1 != place) ++ [(place, node)]).lookup q = _
    rw [List.lookup_append, lookup_filter_ne t.nodes h, hlast, Option.or_none]
  rw [node?, node?, hlookup]

/-- Two trees have the same files: each at the same place, with the same content. -/
def SameFiles (t t' : FileTree) : Prop :=
  ∀ place bytes, t.node? place = some (.file bytes) ↔ t'.node? place = some (.file bytes)

theorem SameFiles.refl (t : FileTree) : t.SameFiles t :=
  fun _ _ => Iff.rfl

theorem SameFiles.trans {t' t'' : FileTree} (h : t.SameFiles t') (h' : t'.SameFiles t'') : t.SameFiles t'' :=
  fun place bytes => (h place bytes).trans (h' place bytes)

theorem sameFiles_put {place : Path} (h : t.node? place = none) : t.SameFiles (t.put place .directory) := by
  intro q bytes
  by_cases hq : q = place
  · subst hq
    have hmade : (t.put q .directory).node? q ≠ some (.file bytes) := by
      intro hfile
      unfold node? at hfile
      split at hfile
      · cases hfile
      · rcases List.mem_append.mp (mem_of_lookup hfile) with hmem | hmem
        · simpa using (List.mem_filter.mp hmem).2
        · cases List.mem_singleton.mp hmem
    constructor
    · intro hfile
      rw [h] at hfile
      cases hfile
    · exact fun hfile => absurd hfile hmade
  · rw [node?_put place .directory hq]

theorem sameFiles_makeDirectory {t' : FileTree} {p : Path} (h : t.makeDirectory p = .ok t') : t.SameFiles t' := by
  unfold makeDirectory at h
  split at h
  · cases h
  · split at h
    · cases h
      exact .refl t
    · cases h
    · rename_i hnone
      cases h
      exact sameFiles_put hnone

theorem sameFiles_makeDirectoriesTo (anchor : Anchor) (names : List String) :
    t.SameFiles (t.makeDirectoriesTo anchor names).2 := by
  induction names with
  | nil => exact .refl t
  | cons name outer ih =>
    simp only [makeDirectoriesTo]
    split
    · rename_i made hmade
      exact sameFiles_makeDirectory hmade
    · -- The directory around is made first, perhaps in vain.
      split
      · rename_i hmade
        rwa [hmade] at ih
      · rename_i hmade
        rw [hmade] at ih
        split
        · rename_i made hmade
          exact ih.trans (sameFiles_makeDirectory hmade)
        · exact ih
    · exact .refl t

theorem sameFiles_makeDirectories (p : Path) : t.SameFiles (t.makeDirectories p).2 :=
  sameFiles_makeDirectoriesTo p.anchor p.names.reverse

/-! ### Files that are written -/

theorem node?_put_self {place : Path} (h : place.names ≠ []) (node : FileNode) :
    (t.put place node).node? place = some node := by
  have hothers : (t.nodes.filter (·.1 != place)).lookup place = none := by
    refine List.lookup_eq_none_iff.mpr fun entry hentry => ?_
    have hne := (List.mem_filter.mp hentry).2
    rwa [bne_comm]
  have hlookup : (t.put place node).nodes.lookup place = some node := by
    show (t.nodes.filter (·.1 != place) ++ [(place, node)]).lookup place = _
    rw [List.lookup_append, hothers, Option.none_or, List.lookup_cons, beq_self_eq_true]
  rw [node?, if_neg (by simpa using h), hlookup]

/-- Where a path leads to is the same after something was put at a place that was no directory. -/
theorem follow_put {place here there : Path} {names : List String} (hplace : t.node? place ≠ some .directory)
    (node : FileNode) (h : t.follow here names = .ok there) : (t.put place node).follow here names = .ok there := by
  induction names generalizing here with
  | nil => exact h
  | cons name rest ih =>
    simp only [follow] at h ⊢
    cases hhere : t.node? here with
    | none =>
      rw [hhere] at h
      cases h
    | some found =>
      cases found with
      | file bytes =>
        rw [hhere] at h
        cases h
      | directory =>
        have hne : here ≠ place := by
          rintro rfl
          exact hplace hhere
        simp only [hhere] at h
        simp only [node?_put place node hne, hhere]
        by_cases hname : (name == "..") = true
        · simp only [hname, if_true] at h ⊢
          cases habove : above here with
          | error fault =>
            rw [habove] at h
            cases h
          | ok outer =>
            rw [habove] at h
            exact ih h
        · simp only [hname] at h ⊢
          exact ih h

theorem locate_put {place there p : Path} (hplace : t.node? place ≠ some .directory) (node : FileNode)
    (h : t.locate p = .ok there) : (t.put place node).locate p = .ok there := by
  obtain ⟨anchor, names⟩ := p
  cases anchor <;> exact follow_put hplace node h

theorem write_eq_ok {t' : FileTree} {p : Path} {s : String} :
    t.write p s = .ok t' ↔
      ∃ place, t.locate p = .ok place ∧ t.node? place ≠ some .directory ∧ t' = t.put place (.ofText s) := by
  unfold write
  cases t.locate p with
  | error fault => simp
  | ok place =>
    simp only [Except.ok.injEq, exists_eq_left']
    split
    · rename_i hdirectory
      simp [hdirectory]
    · rename_i hnot
      constructor
      · intro h
        cases h
        exact ⟨hnot, rfl⟩
      · rintro ⟨-, rfl⟩
        rfl

/-- A path leads to what was written there. -/
theorem find?_write {t' : FileTree} {p : Path} {s : String} (h : t.write p s = .ok t') :
    t'.find? p = some (.ofText s) := by
  obtain ⟨place, hplace, hnot, rfl⟩ := write_eq_ok.mp h
  have hnames : place.names ≠ [] := by
    intro hroot
    apply hnot
    rw [node?, hroot]
    rfl
  rw [find?, locate_put hnot _ hplace]
  exact node?_put_self hnames _

theorem decode_toUTF8 (s : String) : decode s.toUTF8 = .ok (String.ofList (Text.unifyBreaks s.toList)) := by
  have hutf8 : String.fromUTF8? s.toUTF8 = some s := by
    unfold String.fromUTF8?
    rw [String.toUTF8_eq_toByteArray, dif_pos s.isValidUTF8]
    rfl
  rw [decode, hutf8]

theorem unifyBreaks_of_notMem {cs : List Char} (h : '\r' ∉ cs) : Text.unifyBreaks cs = cs := by
  induction cs with
  | nil => rfl
  | cons c rest ih =>
    have hne : c ≠ '\r' := fun heq => h (heq ▸ List.mem_cons_self)
    rw [Text.unifyBreaks, ih fun hmem => h (List.mem_cons_of_mem c hmem)]
    · rintro _ rfl
      exact absurd rfl hne
    · exact hne

/-- The text of a file with line feeds alone is read as it is. -/
theorem read_of_find? {p : Path} {s : String} (h : t.find? p = some (.ofText s)) (hs : '\r' ∉ s.toList) :
    t.read p = .ok s := by
  unfold find? at h
  unfold read
  cases hplace : t.locate p with
  | error fault =>
    rw [hplace] at h
    cases h
  | ok place =>
    rw [hplace] at h
    simp only at h ⊢
    rw [h]
    show decode s.toUTF8 = .ok s
    rw [decode_toUTF8, unifyBreaks_of_notMem hs, String.ofList_toList]

/-- A text can be written to a path: the directories around it are there or can be made, and there is no directory at
the path itself. -/
def IsWritable (t : FileTree) (p : Path) : Prop :=
  ∃ made place, t.makeDirectories p.parent = (.ok (), made) ∧ made.locate p = .ok place ∧
    made.node? place ≠ some .directory

end DesignKit.FileTree
