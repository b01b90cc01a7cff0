import DesignKit.Proofs.Render
import DesignKit.Proofs.Schema

/-! # Loading through a cache

Whatever is asked of a catalog, the answer is that of the cache where it has an entry, and that of the files
where it has none. The cache only grows by it: entries stay as they are, and a new one is the schema that
is in the file of the component at that time (`Grows`). -/

namespace DesignKit

theorem SchemaCache.find?_keep (cache : SchemaCache) (name : String) (schema : Schema) (k : String) :
    (cache.keep name schema).find? k = if k = name then some ((cache.find? name).getD schema) else cache.find? k := by
  unfold keep
  cases hfind : cache.find? name with
  | some kept =>
    by_cases hk : k = name
    · simp [hk, hfind]
    · simp [hk]
  | none =>
    simp only [find?] at hfind ⊢
    rw [List.lookup_append]
    by_cases hk : k = name
    · simp [hk, hfind]
    · have hne : (k == name) = false := by simpa using hk
      simp [hk, List.lookup_cons, hne]

namespace Catalog
variable {c : Catalog} {t : FileTree} {cache : SchemaCache} {name : String}

/-! ### What is in the files -/

theorem isName_of_directory? {directory : Path} (h : c.directory? t name = some directory) : isName name = true := by
  unfold directory? at h
  split at h
  · assumption
  · cases h

/-- A schema that can be loaded belongs to a component that can be looked up, bears its name and has a label. -/
theorem named_of_schemaNow {schema : Schema} (h : c.schemaNow t name = .ok schema) :
    isName name = true ∧ schema.name = name ∧ schema.label ≠ "" := by
  unfold schemaNow schemaPath? at h
  cases hdirectory : c.directory? t name with
  | none => simp [hdirectory] at h
  | some directory =>
    have hname := isName_of_directory? hdirectory
    have hempty : name ≠ "" := by
      rintro rfl
      cases hname
    simp only [hdirectory, Option.map_some] at h
    split at h
    · exact ⟨hname, Schema.named_of_ofFile hempty h⟩
    · cases h

/-! ### Answers -/

variable (c t cache name)

/-- The schema of a component: the one in the cache, or else the one in its file. -/
def schemaFrom : Except Fault Schema :=
  match cache.find? name with
  | some schema => .ok schema
  | none => c.schemaNow t name

/-- An answer in which an empty schema stands for one that does not exist. -/
def orFallback : Except Fault Schema → Except Fault Schema
  | .error (.noSchema _) => .ok (Schema.fallback name)
  | answer => answer

/-- The entries of components whose schemas are read in some way. -/
def listing (read : String → Except Fault Schema) : List String → Except Fault (List CatalogEntry)
  | [] => .ok []
  | name :: rest => do
    let schema ← read name
    let others ← listing read rest
    return match c.directory? t name with
      | some directory => ⟨name, schema, directory, c.styles t name⟩ :: others
      | none => others

theorem load_fst : (c.load t cache name).1 = c.schemaFrom t cache name := by
  unfold load schemaFrom
  cases cache.find? name with
  | some schema => rfl
  | none => cases c.schemaNow t name <;> rfl

theorem get_fst : (c.get t cache name).1 = orFallback name (c.schemaFrom t cache name) := by
  rw [← load_fst]
  unfold get
  generalize c.load t cache name = loaded
  obtain ⟨answer, cache'⟩ := loaded
  cases answer with
  | ok schema => rfl
  | error fault => cases fault <;> rfl

theorem get_snd : (c.get t cache name).2 = (c.load t cache name).2 := by
  unfold get
  split
  · rename_i hload
    rw [hload]
  · rfl

/-! ### Caches -/

/-- What may become of a cache by reading files: what it has stays, and what is new is in a file. -/
def Grows (before after : SchemaCache) : Prop :=
  ∀ name, after.find? name = before.find? name ∨
    before.find? name = none ∧ ∃ schema, c.schemaNow t name = .ok schema ∧ after.find? name = some schema

namespace Grows
variable {c t name} {before after later : SchemaCache}

theorem refl : Grows c t cache cache := fun _ => .inl rfl

theorem trans (h : Grows c t before after) (h' : Grows c t after later) : Grows c t before later := by
  intro k
  rcases h k with heq | ⟨hnone, schema, hnow, hafter⟩
  · rw [← heq]
    exact h' k
  · rcases h' k with heq' | ⟨hnone', -⟩
    · exact .inr ⟨hnone, schema, hnow, heq'.trans hafter⟩
    · rw [hafter] at hnone'
      cases hnone'

theorem keep {schema : Schema} (h : c.schemaNow t name = .ok schema) : Grows c t cache (cache.keep name schema) := by
  intro k
  rw [SchemaCache.find?_keep]
  by_cases hk : k = name
  · subst hk
    rw [if_pos rfl]
    cases hfind : cache.find? k with
    | some kept => exact .inl rfl
    | none => exact .inr ⟨rfl, schema, h, rfl⟩
  · exact .inl (if_neg hk)

theorem find?_eq_some (h : Grows c t before after) {schema : Schema} (hs : before.find? name = some schema) :
    after.find? name = some schema := by
  rcases h name with heq | ⟨hnone, -⟩
  · exact heq.trans hs
  · rw [hs] at hnone
    cases hnone

theorem find?_of_error (h : Grows c t before after) {fault : Fault} (hf : c.schemaNow t name = .error fault) :
    after.find? name = before.find? name := by
  rcases h name with heq | ⟨-, schema, hnow, -⟩
  · exact heq
  · rw [hf] at hnow
    cases hnow

/-- Reading files does not change what a catalog answers as long as the files are the same. -/
theorem schemaFrom_eq (h : Grows c t before after) : c.schemaFrom t after = c.schemaFrom t before := by
  funext k
  unfold schemaFrom
  rcases h k with heq | ⟨hnone, schema, hnow, hafter⟩
  · rw [heq]
  · simp only [hnone, hafter, hnow]

end Grows

theorem grows_load : Grows c t cache (c.load t cache name).2 := by
  unfold load
  cases cache.find? name with
  | some schema => exact .refl _
  | none =>
    cases hnow : c.schemaNow t name with
    | ok schema => exact Grows.keep cache hnow
    | error fault => exact .refl _

theorem grows_get : Grows c t cache (c.get t cache name).2 := by
  rw [get_snd]
  exact c.grows_load t cache name

variable {c t cache name} in
theorem Grows.load_fst_eq {after : SchemaCache} (h : Grows c t cache after) :
    (c.load t after name).1 = (c.load t cache name).1 := by
  rw [load_fst, load_fst, h.schemaFrom_eq]

/-- Entries are listed with the schemas of the cache and the files, each load leaving the answers as they were. -/
theorem entries_grow (names : List String) :
    (c.entries t cache names).1 = c.listing t (c.schemaFrom t cache) names ∧
      Grows c t cache (c.entries t cache names).2 := by
  induction names generalizing cache with
  | nil => exact ⟨rfl, .refl _⟩
  | cons name rest ih =>
    have hanswer := c.load_fst t cache name
    have hgrows := c.grows_load t cache name
    rcases hload : c.load t cache name with ⟨loaded, cache'⟩
    rw [hload] at hanswer hgrows
    obtain ⟨hrest, hgrows'⟩ := ih cache'
    rw [hgrows.schemaFrom_eq] at hrest
    unfold entries listing
    rw [hload, ← hanswer]
    cases loaded with
    | error fault => exact ⟨rfl, hgrows⟩
    | ok schema =>
      rcases hentries : c.entries t cache' rest with ⟨others, cache''⟩
      rw [hentries] at hrest hgrows'
      simp only [← hrest, hentries]
      cases others with
      | error fault => exact ⟨rfl, hgrows.trans hgrows'⟩
      | ok others => cases c.directory? t name <;> exact ⟨rfl, hgrows.trans hgrows'⟩

/-! ### What has been loaded is kept -/

section
variable {c t cache name} {schema : Schema} (h : (c.load t cache name).1 = .ok schema)
include h

theorem find?_load : (c.load t cache name).2.find? name = some schema := by
  rw [load_fst] at h
  unfold schemaFrom at h
  unfold load
  cases hfind : cache.find? name with
  | some kept =>
    simp only [hfind] at h
    cases h
    exact hfind
  | none =>
    simp only [hfind] at h
    simp only [h, SchemaCache.find?_keep, hfind, if_pos, Option.getD_none]

theorem entries_cons_snd (rest : List String) :
    (c.entries t cache (name :: rest)).2 = (c.entries t (c.load t cache name).2 rest).2 := by
  rcases hload : c.load t cache name with ⟨loaded, cache'⟩
  rw [hload] at h
  cases h
  rw [entries]
  simp only [hload]
  rcases c.entries t cache' rest with ⟨others, cache''⟩
  cases others with
  | error fault => rfl
  | ok others => cases c.directory? t name <;> rfl

/-- A walk over names keeps each schema that it comes to, also when it fails at a later name. -/
theorem find?_entries {before : List String} (hbefore : ∀ other ∈ before, ∃ found, (c.load t cache other).1 = .ok found)
    (after : List String) : (c.entries t cache (before ++ name :: after)).2.find? name = some schema := by
  induction before generalizing cache with
  | nil =>
    rw [List.nil_append, entries_cons_snd h]
    exact (c.entries_grow t _ after).2.find?_eq_some (find?_load h)
  | cons other rest ih =>
    obtain ⟨⟨found, hfound⟩, hrest⟩ := List.forall_mem_cons.mp hbefore
    have hgrows := c.grows_load t cache other
    rw [List.cons_append, entries_cons_snd hfound]
    refine ih (hgrows.load_fst_eq.trans h) fun another hmem => ?_
    rw [hgrows.load_fst_eq]
    exact hrest another hmem

end

end Catalog
end DesignKit
