import DesignKit.Proofs.Catalog.Discovery

/-! # Sessions

Catalogs that share a cache are asked for schemas and for their components, in any order, while the files
change in any way. No request undoes what an earlier one has put into the cache, and none puts anything
there but valid schemas from files. As long as the files stay as they are, the cache makes no difference. -/

namespace DesignKit

/-- What is asked of a catalog. -/
inductive Request where
  | load (name : String)
  | get (name : String)
  | scan

/-- What a catalog answers: a schema, or the entries of its components. -/
inductive Answer where
  | schema (result : Except Fault Schema)
  | entries (result : Except Fault (List CatalogEntry))

namespace Catalog
variable (c : Catalog) (t : FileTree)

/-- The answer to a request, and the cache after it. -/
def answer (cache : SchemaCache) : Request → Answer × SchemaCache
  | .load name => (c.load t cache name).map .schema id
  | .get name => (c.get t cache name).map .schema id
  | .scan => (c.scan t cache).map .entries id

theorem grows_answer (cache : SchemaCache) (request : Request) : Grows c t cache (c.answer t cache request).2 := by
  cases request with
  | load name => exact c.grows_load t cache name
  | get name => exact c.grows_get t cache name
  | scan => exact (c.entries_grow t cache (c.names t)).2

variable {c t} in
/-- A cache that has been filled from the files as they are answers like an empty one. -/
theorem answer_of_grows {cache : SchemaCache} (h : Grows c t [] cache) (request : Request) :
    (c.answer t cache request).1 = (c.answer t [] request).1 := by
  cases request with
  | load name => simp only [answer, Prod.map, load_fst, h.schemaFrom_eq]
  | get name => simp only [answer, Prod.map, get_fst, h.schemaFrom_eq]
  | scan => simp only [answer, Prod.map, scan_fst, h.schemaFrom_eq]

theorem load_of_find? {cache : SchemaCache} {name : String} {schema : Schema} (h : cache.find? name = some schema) :
    c.load t cache name = (.ok schema, cache) := by
  simp only [load, h]

theorem get_of_find? {cache : SchemaCache} {name : String} {schema : Schema} (h : cache.find? name = some schema) :
    c.get t cache name = (.ok schema, cache) := by
  simp only [get, c.load_of_find? t h]

end Catalog

/-- The files, and the cache that catalogs share. -/
structure Session where
  files : FileTree
  cache : SchemaCache

namespace Session

/-- A catalog is asked, or the files become others. -/
inductive Step where
  | ask (c : Catalog) (request : Request)
  | edit (files : FileTree)

def step (s : Session) : Step → Session
  | .ask c request => { s with cache := (c.answer s.files s.cache request).2 }
  | .edit files => { s with files := files }

def run (s : Session) (steps : List Step) : Session := steps.foldl step s

/-- The answers to requests that follow one another. -/
def answers : Session → List (Catalog × Request) → List Answer
  | _, [] => []
  | s, (c, request) :: rest => (c.answer s.files s.cache request).1 :: answers (s.step (.ask c request)) rest

/-- A request of a catalog loads the schema of a name, from the cache or from a file: it asks for the schema, or it
lists the components and comes to the name, which it does when the names before it are loaded too. Where an empty schema
stands in for a missing one, nothing is loaded. -/
inductive Loads (s : Session) (c : Catalog) (name : String) (schema : Schema) : Request → Prop
  | load (h : (c.load s.files s.cache name).1 = .ok schema) : Loads s c name schema (.load name)
  | get (h : (c.load s.files s.cache name).1 = .ok schema) : Loads s c name schema (.get name)
  | scan {before after : List String} (hnames : c.names s.files = before ++ name :: after)
    (hbefore : ∀ other ∈ before, ∃ found, (c.load s.files s.cache other).1 = .ok found)
    (h : (c.load s.files s.cache name).1 = .ok schema) : Loads s c name schema .scan

/-- Every catalog has the schema of a name from the cache. -/
def Serves (s : Session) (name : String) (schema : Schema) : Prop :=
  ∀ c : Catalog, c.load s.files s.cache name = (.ok schema, s.cache) ∧ c.get s.files s.cache name = (.ok schema, s.cache)

/-- Every entry of the cache bears the name under which it is kept, and has a label. -/
def Labelled (s : Session) : Prop :=
  ∀ name schema, s.cache.find? name = some schema → schema.name = name ∧ schema.label ≠ ""

variable {s : Session} {name : String} {schema : Schema}

theorem serves_of_find? (h : s.cache.find? name = some schema) : s.Serves name schema :=
  fun c => ⟨c.load_of_find? s.files h, c.get_of_find? s.files h⟩

theorem find?_step (h : s.cache.find? name = some schema) (x : Step) : (s.step x).cache.find? name = some schema := by
  cases x with
  | ask c request => exact (c.grows_answer s.files s.cache request).find?_eq_some h
  | edit files => exact h

theorem find?_run (h : s.cache.find? name = some schema) (steps : List Step) :
    (s.run steps).cache.find? name = some schema := by
  induction steps generalizing s with
  | nil => exact h
  | cons x rest ih => exact ih (find?_step h x)

theorem find?_ask {c : Catalog} {request : Request} (h : s.Loads c name schema request) :
    (s.step (.ask c request)).cache.find? name = some schema := by
  cases h with
  | load h => exact Catalog.find?_load h
  | get h =>
    show (c.get s.files s.cache name).2.find? name = some schema
    rw [Catalog.get_snd]
    exact Catalog.find?_load h
  | scan hnames hbefore h =>
    show (c.entries s.files s.cache (c.names s.files)).2.find? name = some schema
    rw [hnames]
    exact Catalog.find?_entries h hbefore _

/-- What is got has been loaded, or it is empty because there is nothing to load. -/
theorem loads_of_get {c : Catalog} (h : (c.get s.files s.cache name).1 = .ok schema) :
    s.Loads c name schema (.get name) ∨
      schema = Schema.fallback name ∧ ∃ missing, (c.load s.files s.cache name).1 = .error (.noSchema missing) := by
  rw [Catalog.get_fst, ← Catalog.load_fst] at h
  cases hload : (c.load s.files s.cache name).1 with
  | ok loaded =>
    rw [hload] at h
    cases h
    exact .inl (.get hload)
  | error fault =>
    rw [hload, Catalog.orFallback.eq_def] at h
    split at h
    · rename_i hmissing
      cases hmissing
      cases h
      exact .inr ⟨rfl, _, rfl⟩
    · cases h

/-- A listing has loaded the schemas of all discovered names, and those of its entries are among them. -/
theorem loads_of_scan {c : Catalog} {es : List CatalogEntry} (h : (c.scan s.files s.cache).1 = .ok es) :
    (∀ name ∈ c.names s.files, ∃ schema, s.Loads c name schema .scan) ∧ ∀ e ∈ es, s.Loads c e.name e.schema .scan := by
  rw [Catalog.scan_fst] at h
  have hall : ∀ name ∈ c.names s.files, ∃ schema, (c.load s.files s.cache name).1 = .ok schema := by
    simp only [Catalog.load_fst]
    exact Catalog.listing_eq_ok.mp ⟨es, h⟩
  have hloads : ∀ name ∈ c.names s.files, ∀ schema, (c.load s.files s.cache name).1 = .ok schema →
      s.Loads c name schema .scan := fun name hmem schema hload => by
    obtain ⟨before, after, hnames⟩ := List.append_of_mem hmem
    exact .scan hnames (fun other hother => hall other (hnames ▸ List.mem_append_left _ hother)) hload
  refine ⟨fun name hmem => ?_, fun e he => ?_⟩
  · obtain ⟨schema, hload⟩ := hall name hmem
    exact ⟨schema, hloads name hmem schema hload⟩
  · obtain ⟨hmem, hread⟩ := Catalog.schema_of_listing h e he
    exact hloads e.name hmem e.schema ((c.load_fst s.files s.cache e.name).trans hread)

theorem labelled_step (h : s.Labelled) (x : Step) : (s.step x).Labelled := by
  cases x with
  | edit files => exact h
  | ask c request =>
    intro name schema hs
    rcases c.grows_answer s.files s.cache request name with heq | ⟨-, found, hnow, hafter⟩
    · exact h name schema (heq.symm.trans hs)
    · obtain rfl : found = schema := Option.some.inj (hafter.symm.trans hs)
      exact (Catalog.named_of_schemaNow hnow).2

theorem labelled_run (h : s.Labelled) (steps : List Step) : (s.run steps).Labelled := by
  induction steps generalizing s with
  | nil => exact h
  | cons x rest ih => exact ih (labelled_step h x)

/-- What a failing load leaves behind: no entry, neither for itself nor for the empty schema in its stead. -/
theorem find?_of_load_error {c : Catalog} {fault : Fault} (h : (c.load s.files s.cache name).1 = .error fault) :
    s.cache.find? name = none ∧ c.schemaNow s.files name = .error fault := by
  rw [Catalog.load_fst] at h
  unfold Catalog.schemaFrom at h
  cases hfind : s.cache.find? name with
  | some kept =>
    rw [hfind] at h
    cases h
  | none =>
    rw [hfind] at h
    exact ⟨rfl, h⟩

theorem answers_eq {c : Catalog} (requests : List (Catalog × Request)) (hc : ∀ asked ∈ requests, asked.1 = c)
    (h : Catalog.Grows c s.files [] s.cache) :
    s.answers requests = requests.map fun (c, request) => (c.answer s.files [] request).1 := by
  induction requests generalizing s with
  | nil => rfl
  | cons asked rest ih =>
    obtain ⟨c', request⟩ := asked
    obtain rfl : c' = c := hc _ List.mem_cons_self
    have hrest := ih (s := s.step (.ask c' request)) (fun a ha => hc a (List.mem_cons_of_mem _ ha))
      (h.trans (c'.grows_answer s.files s.cache request))
    show _ :: answers _ rest = _ :: rest.map _
    rw [Catalog.answer_of_grows h request, hrest]
    rfl

/-- What a run of requests and edits makes of a cache that was empty. A schema that was loaded, by whatever request, is
the one that every catalog has from then on, whatever becomes of the files; what is got and what is listed has been
loaded, unless it is the empty schema of a name without one. A name whose file cannot be loaded gets no entry, also
where an empty schema stands in, so that a valid file is found as soon as there is one. Entries bear their names and
have labels. While the files stay as they are, catalogs with the same directories answer as if each were asked
first. -/
theorem session_cache (files : FileTree) (steps : List Step) :
    let s := run ⟨files, []⟩ steps
    (∀ c request name schema, s.Loads c name schema request →
      ∀ later, ((s.step (.ask c request)).run later).Serves name schema) ∧
    (∀ c name schema, (Catalog.get c s.files s.cache name).1 = .ok schema → s.Loads c name schema (.get name) ∨
      schema = Schema.fallback name ∧ ∃ missing, (c.load s.files s.cache name).1 = .error (.noSchema missing)) ∧
    (∀ c es, (Catalog.scan c s.files s.cache).1 = .ok es →
      (∀ name ∈ c.names s.files, ∃ schema, s.Loads c name schema .scan) ∧ ∀ e ∈ es, s.Loads c e.name e.schema .scan) ∧
    (∀ c request name fault, Catalog.schemaNow c s.files name = .error fault →
      (s.step (.ask c request)).cache.find? name = s.cache.find? name) ∧
    (∀ c name fault, (Catalog.load c s.files s.cache name).1 = .error fault → ∀ request,
      let s' := s.step (.ask c request)
      s'.cache.find? name = none ∧
        ∀ c' files schema, Catalog.schemaNow c' files name = .ok schema →
          (c'.load files s'.cache name).1 = .ok schema ∧ (c'.get files s'.cache name).1 = .ok schema) ∧
    s.Labelled ∧
    ∀ directories requests, (∀ asked ∈ requests, Catalog.directories asked.1 = directories) →
      answers ⟨files, []⟩ requests = requests.map fun (c, request) => (c.answer files [] request).1 := by
  intro s
  have hlabelled : s.Labelled := labelled_run (fun _ _ h => by cases h) steps
  have hkept : ∀ c request name fault, Catalog.schemaNow c s.files name = .error fault →
      (s.step (.ask c request)).cache.find? name = s.cache.find? name := fun c request name fault h =>
    (c.grows_answer s.files s.cache request).find?_of_error h
  refine ⟨fun c request name schema h later => ?_, fun c name schema => loads_of_get, fun c es => loads_of_scan, hkept,
    fun c name fault h request => ?_, hlabelled, fun directories requests h => ?_⟩
  · exact serves_of_find? (find?_run (find?_ask h) later)
  · obtain ⟨hnone, hnow⟩ := find?_of_load_error h
    have hnone' := (hkept c request name fault hnow).trans hnone
    refine ⟨hnone', fun c' files schema hschema => ?_⟩
    have hfrom : c'.schemaFrom files (s.step (.ask c request)).cache name = .ok schema := by
      simp only [Catalog.schemaFrom, hnone', hschema]
    rw [Catalog.load_fst, Catalog.get_fst, hfrom]
    exact ⟨rfl, rfl⟩
  · refine answers_eq (c := ⟨directories⟩) requests (fun asked hasked => ?_) (Catalog.Grows.refl _)
    obtain ⟨⟨_⟩, request⟩ := asked
    exact congrArg Catalog.mk (h _ hasked)

/-- A component that is created after it was asked for, then got and listed, and taken away again. -/
theorem session_cache_created :
    let c : Catalog := ⟨[⟨.working, ["components"]⟩]⟩
    let t : FileTree := ⟨[], [(⟨.project, ["components"]⟩, .directory), (⟨.project, ["components", "x"]⟩, .directory),
      (⟨.project, ["components", "x", "x.schema.json"]⟩, .ofText "{}")]⟩
    let s := run ⟨.empty [], []⟩ [.ask c (.get "x"), .edit t]
    ∃ schema, s.Loads c "x" schema (.get "x") ∧ s.Loads c "x" schema .scan ∧
      ((s.step (.ask c (.get "x"))).run [.edit (.empty []), .ask c .scan]).Serves "x" schema ∧
      ((s.step (.ask c .scan)).run [.edit (.empty [])]).Serves "x" schema := by
  intro c t s
  have hfound : c.directories.flatMap (Catalog.names.found t) = ["x"] := rfl
  have hnames : c.names t = ["x"] := by simp [Catalog.names, hfound, List.eraseDups_cons]
  obtain ⟨hserves, -⟩ := session_cache (.empty []) [.ask c (.get "x"), .edit t]
  have hget : s.Loads c "x" _ (.get "x") := .get rfl
  have hscan : s.Loads c "x" _ .scan := @Loads.scan _ _ _ _ [] [] hnames (List.forall_mem_nil _) rfl
  exact ⟨_, hget, hscan, hserves c _ "x" _ hget _, hserves c _ "x" _ hscan _⟩

end Session
end DesignKit
