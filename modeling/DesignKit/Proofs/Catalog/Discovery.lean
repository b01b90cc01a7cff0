import DesignKit.Proofs.Catalog.Loading
import DesignKit.Proofs.FileTree

/-! # Discovery and look-up

Discovery walks the directories, look-up probes them for one name. They agree on every name under which a
component can be looked up. Discovery also finds directories with other names, hidden ones for instance: these
no look-up finds, and a scan fails at them. -/

namespace DesignKit

namespace Catalog
variable {c : Catalog} {t : FileTree} {name : String}

theorem mem_names : name ∈ c.names t ↔
    ∃ base ∈ c.directories, name ∈ t.names base ∧ t.isFile (Layout.schemaFile (base.child name) name) = true := by
  simp [names, names.found]

/-- The discovered names are in ascending order, none of them twice. -/
theorem names_ascending (c : Catalog) (t : FileTree) : (c.names t).Pairwise (· < ·) := by
  have hsorted : (c.names t).Pairwise (· ≤ ·) :=
    (List.pairwise_mergeSort (fun _ _ _ h h' => by simpa using String.le_trans (by simpa using h) (by simpa using h'))
      (fun a b => by simpa using String.le_total a b) _).imp fun h => by simpa using h
  have hnodup : (c.names t).Nodup := (List.mergeSort_perm _ _).nodup_iff.mpr (nodup_eraseDups _)
  exact hsorted.imp₂ (fun _ _ hle hne => String.not_le.mp fun hge => hne (String.le_antisymm hle hge)) hnodup

/-- A file name with an ending of its own is no double dot. -/
theorem append_ne_above {ending : String} (h : 2 < ending.toList.length) (name : String) : name ++ ending ≠ ".." := by
  intro heq
  have hlength : name.toList.length + ending.toList.length = 2 := by
    rw [← List.length_append, ← String.toList_append, heq]
    rfl
  omega

/-- What is looked up is found exactly if it is discovered and has a name for look-up. -/
theorem isSome_directory? : (c.directory? t name).isSome = true ↔ name ∈ c.names t ∧ isName name = true := by
  unfold directory?
  by_cases hname : isName name = true
  · have habove : name ≠ ".." := by
      rintro rfl
      cases hname
    rw [if_pos hname, List.find?_isSome, mem_names]
    constructor
    · rintro ⟨_, hmem, hfile⟩
      obtain ⟨base, hbase, rfl⟩ := List.mem_map.mp hmem
      exact ⟨⟨base, hbase, t.mem_names_of_isFile habove (append_ne_above (by decide) name) hfile, hfile⟩, hname⟩
    · rintro ⟨⟨base, hbase, -, hfile⟩, -⟩
      exact ⟨_, List.mem_map_of_mem hbase, hfile⟩
  · simp [hname]

/-! ### Listings -/

theorem listing_eq_ok {read : String → Except Fault Schema} {names : List String} :
    (∃ es, c.listing t read names = .ok es) ↔ ∀ name ∈ names, ∃ schema, read name = .ok schema := by
  induction names with
  | nil => exact ⟨fun _ _ h => absurd h List.not_mem_nil, fun _ => ⟨[], rfl⟩⟩
  | cons name rest ih =>
    rw [List.forall_mem_cons, ← ih]
    constructor
    · rintro ⟨es, h⟩
      obtain ⟨schema, hread, h⟩ := except_bind_eq_ok.mp h
      obtain ⟨others, hothers, -⟩ := except_bind_eq_ok.mp h
      exact ⟨⟨schema, hread⟩, others, hothers⟩
    · rintro ⟨⟨schema, hread⟩, others, hothers⟩
      simp only [listing, hread, hothers]
      exact ⟨_, rfl⟩

theorem names_of_listing {read : String → Except Fault Schema} {names : List String} {es : List CatalogEntry}
    (h : c.listing t read names = .ok es) :
    es.map (·.name) = names.filter fun name => (c.directory? t name).isSome := by
  induction names generalizing es with
  | nil =>
    cases h
    rfl
  | cons name rest ih =>
    obtain ⟨schema, -, h⟩ := except_bind_eq_ok.mp h
    obtain ⟨others, hothers, h⟩ := except_bind_eq_ok.mp h
    cases h
    cases hdirectory : c.directory? t name with
    | none => simp [hdirectory, ih hothers]
    | some directory => simp [hdirectory, ih hothers]

theorem schema_of_listing {read : String → Except Fault Schema} {names : List String} {es : List CatalogEntry}
    (h : c.listing t read names = .ok es) : ∀ e ∈ es, e.name ∈ names ∧ read e.name = .ok e.schema := by
  induction names generalizing es with
  | nil =>
    cases h
    exact nofun
  | cons name rest ih =>
    obtain ⟨schema, hread, h⟩ := except_bind_eq_ok.mp h
    obtain ⟨others, hothers, h⟩ := except_bind_eq_ok.mp h
    have hrest : ∀ e ∈ others, e.name ∈ name :: rest ∧ read e.name = .ok e.schema := fun e he =>
      ⟨List.mem_cons_of_mem _ (ih hothers e he).1, (ih hothers e he).2⟩
    cases hdirectory : c.directory? t name with
    | none =>
      simp only [hdirectory] at h
      cases h
      exact hrest
    | some directory =>
      simp only [hdirectory] at h
      cases h
      exact List.forall_mem_cons.mpr ⟨⟨List.mem_cons_self, hread⟩, hrest⟩

theorem scan_fst (c : Catalog) (t : FileTree) (cache : SchemaCache) :
    (c.scan t cache).1 = c.listing t (c.schemaFrom t cache) (c.names t) :=
  (c.entries_grow t cache (c.names t)).1

theorem scan_names {cache : SchemaCache} {es : List CatalogEntry} (h : (c.scan t cache).1 = .ok es) :
    es.map (·.name) = (c.names t).filter isName := by
  rw [scan_fst] at h
  rw [names_of_listing h]
  refine List.filter_congr fun name hmem => ?_
  have hfound : (c.directory? t name).isSome = true ↔ name ∈ c.names t ∧ isName name = true := isSome_directory?
  cases hname : isName name <;> simp_all

/-! ### The two definitions of a component -/

/-- A name is discovered and can be looked up, or look-up does not find it; the discovered names are ascending.
A scan succeeds exactly when every discovered name has a schema in the cache or a valid one in its file, and
it lists the names that can be looked up. If all of them can, discovery and look-up are the same, and valid
files suffice for the scan. -/
theorem discovery_lookup (c : Catalog) (t : FileTree) :
    (c.names t).Pairwise (· < ·) ∧
    (∀ name, (c.directory? t name).isSome = true ↔ name ∈ c.names t ∧ isName name = true) ∧
    (∀ cache, (∃ es, (c.scan t cache).1 = .ok es) ↔
      ∀ name ∈ c.names t, (∃ schema, cache.find? name = some schema) ∨ ∃ schema, c.schemaNow t name = .ok schema) ∧
    (∀ cache es, (c.scan t cache).1 = .ok es → es.map (·.name) = (c.names t).filter isName) := by
  refine ⟨c.names_ascending t, fun _ => isSome_directory?, fun cache => ?_, fun _ _ => scan_names⟩
  rw [scan_fst, listing_eq_ok]
  refine forall₂_congr fun name _ => ?_
  unfold schemaFrom
  cases cache.find? name <;> simp

/-- Discovery and look-up are not the same: a hidden directory with a valid schema file is discovered, no look-up
finds it, and no scan gets past it. -/
theorem discovery_not_lookup :
    let c : Catalog := ⟨[⟨.working, ["components"]⟩]⟩
    let t : FileTree := ⟨[], [(⟨.project, ["components"]⟩, .directory), (⟨.project, ["components", ".x"]⟩, .directory),
      (⟨.project, ["components", ".x", ".x.schema.json"]⟩, .ofText "{}")]⟩
    ¬ (∀ name, name ∈ c.names t ↔ (c.directory? t name).isSome = true) ∧
      (∀ name ∈ c.names t, ∃ base ∈ c.directories, ∃ schema,
        let path := Layout.schemaFile (base.child name) name
        (t.read path >>= Schema.ofFile name path) = .ok schema) ∧
      (c.scan t []).1 = .error (.noSchema ".x") := by
  intro c t
  have hfound : c.directories.flatMap (names.found t) = [".x"] := rfl
  have hnames : c.names t = [".x"] := by simp [names, hfound, List.eraseDups_cons]
  refine ⟨fun h => ?_, fun name hmem => ?_, ?_⟩
  · have hlookup := (h ".x").mp (hnames ▸ List.mem_singleton_self _)
    cases hlookup
  · obtain rfl := List.mem_singleton.mp (hnames ▸ hmem)
    exact ⟨_, List.mem_singleton_self _, _, rfl⟩
  · rw [scan_fst, hnames]
    rfl

end Catalog
end DesignKit
