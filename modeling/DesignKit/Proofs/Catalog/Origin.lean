import DesignKit.Catalog.Css
import DesignKit.Kit
import DesignKit.Proofs.Catalog.Discovery
import DesignKit.Proofs.Library

/-! # Where the parts of a component come from

The schema and the stylesheets of a component are those of the first directory that holds its schema file, as if
the catalog had no other. Its template is that of the first directory that holds a template for it, which may
be another one: only a component without a template in any directory is shown by the placeholder. -/

namespace DesignKit

/-! ### Registries -/

theorem Registry.find?_register (r : Registry) (name : String) (f : RenderFunction) (k : String) :
    (r.register name f).find? k = if k = name then some f else r.find? k := by
  induction r with
  | nil =>
    by_cases hk : k = name
    · simp [register, find?, hk]
    · have hne : (k == name) = false := by simpa using hk
      simp [register, find?, hk, List.lookup_cons, hne]
  | cons entry rest ih =>
    obtain ⟨n, g⟩ := entry
    unfold find? at ih ⊢
    by_cases hn : n = name
    · subst hn
      by_cases hk : k = n
      · simp [register, hk]
      · have hne : (k == n) = false := by simpa using hk
        simp [register, hk, List.lookup_cons, hne]
    · have hne : (n == name) = false := by simpa using hn
      simp only [register, hne, Bool.false_eq_true, if_false, List.lookup_cons, ih]
      by_cases hk : k = n
      · subst hk
        simp [hn]
      · have hkn : (k == n) = false := by simpa using hk
        simp [hkn]

namespace Catalog
variable {c : Catalog} {t : FileTree} {name : String} {base : Path}

/-- The directory of a catalog has the schema file of a component. -/
def holdsSchema (t : FileTree) (name : String) (base : Path) : Bool :=
  t.isFile (Layout.schemaFile (base.child name) name)

/-- The directory of a catalog has a template for a component. -/
def holdsTemplate (t : FileTree) (name : String) (base : Path) : Bool :=
  t.isFile (Layout.templateFile (base.child name) name)

/-- A directory is the first one of a catalog with a property. -/
def First (c : Catalog) (p : Path → Bool) (base : Path) : Prop :=
  ∃ before after, c.directories = before ++ base :: after ∧ p base = true ∧ ∀ other ∈ before, p other = false

theorem find?_of_first {p : Path → Bool} (h : c.First p base) : c.directories.find? p = some base := by
  obtain ⟨before, after, hdirectories, hbase, hbefore⟩ := h
  refine List.find?_eq_some_iff_append.mpr ⟨hbase, before, after, hdirectories, fun other hother => ?_⟩
  simp [hbefore other hother]

/-! ### Schemas and stylesheets -/

theorem directory?_eq (hname : isName name = true) :
    c.directory? t name = (c.directories.find? (holdsSchema t name)).map (·.child name) := by
  rw [directory?, if_pos hname, List.find?_map]
  rfl

theorem directory?_of_first (hname : isName name = true) (h : c.First (holdsSchema t name) base) :
    c.directory? t name = some (base.child name) := by
  rw [directory?_eq hname, find?_of_first h, Option.map_some]

variable {c' : Catalog} (h : c.directory? t name = c'.directory? t name)
include h

theorem schemaNow_congr : c.schemaNow t name = c'.schemaNow t name := by
  simp only [schemaNow, schemaPath?, h]

theorem load_congr (cache : SchemaCache) : c.load t cache name = c'.load t cache name := by
  simp only [load, schemaNow_congr h]

theorem get_congr (cache : SchemaCache) : c.get t cache name = c'.get t cache name := by
  simp only [get, load_congr h]

theorem styles_congr : c.styles t name = c'.styles t name := by
  simp only [styles, h]

theorem componentLines_congr (style : String) : c.componentLines t style name = c'.componentLines t style name := by
  simp only [componentLines, h]

omit h

/-- The stylesheet of a variant with a plain name lies in the directory of the stylesheets itself. -/
theorem stylesheet_plain (directory : Path) {style : String} (h : '/' ∉ style.toList) :
    Layout.stylesheet directory style = (Layout.styles directory).child (style ++ Layout.styleEnding) := by
  have hslash : '/' ∉ (style ++ Layout.styleEnding).toList := by
    rw [String.toList_append, List.mem_append]
    exact not_or.mpr ⟨h, by decide⟩
  have hrelative : Path.isAbsolute (style ++ Layout.styleEnding) = false := by
    unfold Path.isAbsolute
    cases hlist : (style ++ Layout.styleEnding).toList with
    | nil => rfl
    | cons first rest =>
      have hfirst : first ≠ '/' := fun heq => hslash (by rw [hlist, heq]; exact List.mem_cons_self)
      simpa using hfirst
  have hlength : 4 ≤ (style ++ Layout.styleEnding).toList.length := by
    simp [Layout.styleEnding]
  have hnames : Path.namesOf (style ++ Layout.styleEnding) = [style ++ Layout.styleEnding] := by
    have hsplit : (style ++ Layout.styleEnding).toList.splitOn '/' = [(style ++ Layout.styleEnding).toList] :=
      List.splitOnP_eq_singleton fun c hc => by simpa using fun heq : c = '/' => hslash (heq ▸ hc)
    have hempty : style ++ Layout.styleEnding ≠ "" := fun heq => by rw [heq] at hlength; cases hlength
    have hpoint : style ++ Layout.styleEnding ≠ "." := fun heq => by rw [heq] at hlength; simp at hlength
    simp only [Path.namesOf, hsplit, List.map_cons, List.map_nil, String.ofList_toList]
    simp [hempty, hpoint]
  simp only [Layout.stylesheet, Path.join, hrelative, Bool.false_eq_true, if_false, hnames, Path.child]

/-! ### Templates -/

theorem isSome_templateIn? (t : FileTree) (name : String) (base : Path) :
    (templateIn? t name base).isSome = holdsTemplate t name base := by
  unfold holdsTemplate
  cases hfile : t.isFile (Layout.templateFile (base.child name) name) with
  | false => simp [templateIn?, hfile]
  | true =>
    simp only [templateIn?, hfile, if_true]
    split <;> rfl

theorem templateIn?_eq_none (h : holdsTemplate t name base = false) : templateIn? t name base = none := by
  rw [← Option.isNone_iff_eq_none, ← Option.not_isSome, isSome_templateIn?, h]
  rfl

theorem function_of_first (h : c.First (holdsTemplate t name) base) (placeholder : String) :
    c.function t placeholder name = function ⟨[base]⟩ t placeholder name := by
  obtain ⟨before, after, hdirectories, hbase, hbefore⟩ := h
  obtain ⟨found, hfound⟩ := Option.isSome_iff_exists.mp ((isSome_templateIn? t name base).trans hbase)
  have hnone : before.findSome? (templateIn? t name) = none :=
    List.findSome?_eq_none_iff.mpr fun other hother => templateIn?_eq_none (hbefore other hother)
  simp only [function, hdirectories, List.findSome?_append, hnone, Option.none_or, List.findSome?_cons, hfound]

theorem function_of_none (h : ∀ base ∈ c.directories, holdsTemplate t name base = false) (placeholder : String) :
    c.function t placeholder name = do
      Render.log (.untemplated name)
      return .missing placeholder := by
  have hnone : c.directories.findSome? (templateIn? t name) = none :=
    List.findSome?_eq_none_iff.mpr fun base hbase => templateIn?_eq_none (h base hbase)
  simp only [function, hnone]

/-- A template is no placeholder. -/
theorem function_ne_missing (h : holdsTemplate t name base = true) {placeholder : String} {f : RenderFunction}
    (hf : (function ⟨[base]⟩ t placeholder name).result = .ok f) (other : String) : f ≠ .missing other := by
  rintro rfl
  obtain ⟨found, hfound⟩ := Option.isSome_iff_exists.mp ((isSome_templateIn? t name base).trans h)
  simp only [function, List.findSome?_cons, hfound] at hf
  obtain rfl : found = .ok (.missing other) := hf
  have hfile : t.isFile (Layout.templateFile (base.child name) name) = true := h
  simp only [templateIn?, hfile, if_true] at hfound
  split at hfound
  · cases hfound
  · cases hread : t.read (Layout.templateFile (base.child name) name) <;> rw [hread] at hfound <;> cases hfound

/-- What is registered for the components of a list: each has its own function, and all others are left alone. -/
theorem find?_registerAll {placeholder : String} {r r' : Registry} {names : List String}
    (h : (c.registerAll t placeholder r names).result = .ok r') (k : String) :
    (k ∈ names → ∃ f, (c.function t placeholder k).result = .ok f ∧ r'.find? k = some f) ∧
      (k ∉ names → r'.find? k = r.find? k) := by
  induction names generalizing r with
  | nil =>
    cases h
    exact ⟨fun hk => absurd hk List.not_mem_nil, fun _ => rfl⟩
  | cons name rest ih =>
    obtain ⟨f, hf, hrest⟩ := Render.bind_eq_ok.mp h
    obtain ⟨hmem, hnot⟩ := ih hrest
    rw [Registry.find?_register] at hnot
    by_cases hk : k ∈ rest
    · exact ⟨fun _ => hmem hk, fun hout => absurd (List.mem_cons_of_mem _ hk) hout⟩
    · by_cases hname : k = name
      · subst hname
        rw [if_pos rfl] at hnot
        exact ⟨fun _ => ⟨f, hf, hnot hk⟩, fun hout => absurd List.mem_cons_self hout⟩
      · rw [if_neg hname] at hnot
        exact ⟨fun hin => absurd (List.mem_of_ne_of_mem hname hin) hk, fun _ => hnot hk⟩

end Catalog

/-- A component with a placeholder shows the placeholder, whatever its props. -/
theorem Renderer.component_missing {r : Renderer} {name placeholder : String} {schema : Schema}
    (hf : r.registry.find? name = some (.missing placeholder)) (hs : r.schema name = .ok schema) (depth : Nat)
    (props : Members) :
    (r.component (depth + 1) (.text name) (.object props)).result =
      .ok (Markup.ofVerbatim (Text.strip placeholder)) := by
  have hfunction : r.function (.text name) = .ok (name, .missing placeholder) := by
    simp only [function, hf]
  have hfill : (r.fill name (.object props)).result = .ok (schema.fill (Members.ofEntries props)) := by
    simp only [fill, hs, Members.ofOptional_object]
    rfl
  exact Render.bind_eq_ok.mpr ⟨_, hfunction, Render.bind_eq_ok.mpr ⟨_, hfill, rfl⟩⟩

namespace Catalog

/-! ### The directories of a component -/

/-- A component that can be looked up has its schema and its stylesheets from the first directory that holds its
schema file, as if the catalog had no other. When the catalog is opened, its template comes from the first
directory that holds one for it, as if the catalog had no other than that; and only if there is none, the
component is registered with the placeholder, which is then all that it renders to. -/
theorem component_origin {c : Catalog} {t : FileTree} {name : String} {base : Path} (hname : isName name = true)
    (hbase : c.First (holdsSchema t name) base) :
    c.directory? t name = some (base.child name) ∧
    (∀ cache, c.load t cache name = load ⟨[base]⟩ t cache name ∧ c.get t cache name = get ⟨[base]⟩ t cache name) ∧
    c.styles t name = styles ⟨[base]⟩ t name ∧
    (∀ style, c.componentLines t style name = componentLines ⟨[base]⟩ t style name ∧
      ('/' ∉ style.toList → Layout.stylesheet (base.child name) style =
        (Layout.styles (base.child name)).child (style ++ Layout.styleEnding))) ∧
    ∀ policy placeholder kit, (Kit.discover c t policy placeholder).result = .ok kit →
      (∀ home, c.First (holdsTemplate t name) home → ∃ f, kit.registry.find? name = some f ∧
        (function ⟨[home]⟩ t placeholder name).result = .ok f ∧ ∀ other, f ≠ .missing other) ∧
      ((∀ other ∈ c.directories, holdsTemplate t name other = false) →
        kit.registry.find? name = some (.missing placeholder) ∧
        ∀ cache schema props, (c.get t cache name).1 = .ok schema →
          ((kit.renderer t cache).renderComponent (.text name) (.object props)).result =
            .ok (Markup.ofVerbatim (Text.strip placeholder))) := by
  have hhome := directory?_of_first hname hbase
  have halone : (Catalog.mk [base]).directory? t name = some (base.child name) := by
    obtain ⟨-, -, -, hholds, -⟩ := hbase
    exact directory?_of_first hname ⟨[], [], rfl, hholds, fun _ h => absurd h List.not_mem_nil⟩
  have hsame := hhome.trans halone.symm
  refine ⟨hhome, fun cache => ⟨load_congr hsame cache, get_congr hsame cache⟩, styles_congr hsame,
    fun style => ⟨componentLines_congr hsame style, stylesheet_plain _⟩, fun policy placeholder kit hkit => ?_⟩
  obtain ⟨registry, hregistry, hpure⟩ := Render.bind_eq_ok.mp hkit
  cases hpure
  have hmem : name ∈ c.names t := (isSome_directory?.mp (by rw [hhome]; rfl)).1
  obtain ⟨f, hf, hfind⟩ := (find?_registerAll hregistry name).1 hmem
  refine ⟨fun home hfirst => ?_, fun hnone => ?_⟩
  · rw [function_of_first hfirst] at hf
    obtain ⟨-, -, -, hholds, -⟩ := hfirst
    exact ⟨f, hfind, hf, function_ne_missing hholds hf⟩
  · rw [function_of_none hnone] at hf
    cases hf
    exact ⟨hfind, fun cache schema props hs => Renderer.component_missing hfind hs _ props⟩

/-- Two directories: the first has the schema of a component, the second has its template. -/
def apart : Catalog := ⟨[⟨.working, ["a"]⟩, ⟨.working, ["b"]⟩]⟩

/-- The files of a component whose schema and template lie apart. -/
def apartFiles : FileTree :=
  let a : Path := ⟨.project, ["a"]⟩
  let b : Path := ⟨.project, ["b"]⟩
  ⟨[], [(a, .directory), (a.child "x", .directory), (Layout.schemaFile (a.child "x") "x", .ofText "{}"),
    (b, .directory), (b.child "x", .directory), ((b.child "x").child "templates", .directory),
    (Layout.templateFile (b.child "x") "x", .ofText "<p>b</p>")]⟩

theorem discover_apart (policy : Policy) (placeholder : String) :
    (Kit.discover apart apartFiles policy placeholder).result = .ok ⟨apart, [("x", .plain "<p>b</p>")], policy⟩ := by
  have hfound : apart.directories.flatMap (names.found apartFiles) = ["x"] := rfl
  have hnames : apart.names apartFiles = ["x"] := by simp [names, hfound, List.eraseDups_cons]
  simp only [Kit.discover, hnames]
  rfl

theorem component_origin_apart :
    apart.directory? apartFiles "x" = some ⟨.working, ["a", "x"]⟩ ∧
      ∃ kit f, (Kit.discover apart apartFiles .skip "-").result = .ok kit ∧ kit.registry.find? "x" = some f ∧
        (function ⟨[⟨.working, ["b"]⟩]⟩ apartFiles "-" "x").result = .ok f := by
  have hfirst : apart.First (holdsSchema apartFiles "x") ⟨.working, ["a"]⟩ :=
    ⟨[], _, rfl, rfl, fun _ h => absurd h List.not_mem_nil⟩
  have h := component_origin (by decide) hfirst
  obtain ⟨f, hfind, hf, -⟩ := (h.2.2.2.2 .skip "-" _ (discover_apart .skip "-")).1 ⟨.working, ["b"]⟩
    ⟨[⟨.working, ["a"]⟩], [], rfl, rfl, by simp; rfl⟩
  exact ⟨h.1, _, f, discover_apart .skip "-", hfind, hf⟩

/-- The parts of a component need not lie in one directory: where the first one that holds the schema has no
template, that of another one takes the place of the placeholder. -/
theorem template_apart :
    ¬ ∀ (c : Catalog) (t : FileTree) (name : String) (directory : Path) (policy : Policy) (placeholder : String)
      (kit : Kit), c.directory? t name = some directory → t.isFile (Layout.templateFile directory name) = false →
      (Kit.discover c t policy placeholder).result = .ok kit → ∀ props m,
        ((kit.renderer t []).renderComponent (.text name) (.object props)).result = .ok m →
          m = Markup.ofVerbatim (Text.strip placeholder) := by
  intro h
  have hrendered := h apart apartFiles "x" _ .refuse "-" _ rfl rfl (discover_apart .refuse "-") [] _ rfl
  cases hrendered

end Catalog
end DesignKit
