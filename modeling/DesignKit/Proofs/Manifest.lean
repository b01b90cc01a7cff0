import DesignKit.Manifest
import DesignKit.Proofs.Checked
import DesignKit.Proofs.FileTree
import DesignKit.Proofs.Members
import DesignKit.Proofs.Render
import DesignKit.Proofs.Toml

/-! # Manifests of any shape

A manifest is loaded exactly where its sections are tables, its policy is one of the two, its paths can be walked
over and the paths of its tokens can be printed. An array is walked over item by item, but a text and a table can be
walked over too. What cannot is a fault, and so is an integer with too many digits, in the text and where it would be
printed. Only an unknown policy and a text that is no document are reported as faults of the manifest. -/

namespace DesignKit

theorem Policy.ofName?_eq_some {name : String} {policy : Policy} : ofName? name = some policy ↔ name = policy.name := by
  constructor
  · intro h
    unfold ofName? at h
    split at h
    · rename_i hname
      cases h
      exact eq_of_beq hname
    · split at h
      · rename_i hname
        cases h
        exact eq_of_beq hname
      · cases h
  · rintro rfl
    cases policy <;> rfl

namespace Manifest
open Checked (Stated)

variable {data : Toml.Table} {key : String} {p root : Path}

section
variable {α : Type} {read : Toml.Value → Option α} {declares : Toml.Value → α → Prop} {default : α}
  (hread : ∀ v a, read v = some a ↔ declares v a) (standard : Toml.Value) (hdefault : read standard = some default)
include hread hdefault

/-- What is read under a key where the value for its absence reads as a default. -/
theorem read_getD_eq_some {a : α} :
    read (data.getD key standard) = some a ↔ Stated declares default (data.get? key) a := by
  unfold Toml.Table.getD
  cases data.get? key with
  | none =>
    rw [Option.getD_none, hdefault]
    constructor
    · rintro ⟨⟩
      exact .absent
    · rintro ⟨⟩
      rfl
  | some v =>
    rw [Option.getD_some, hread]
    constructor
    · exact .given
    · rintro (_ | h)
      exact h

theorem read_getD_eq_none :
    read (data.getD key standard) = none ↔ ∃ v, data.get? key = some v ∧ ∀ a, ¬declares v a := by
  unfold Toml.Table.getD
  cases data.get? key with
  | none => simp [hdefault]
  | some v => simp [Option.eq_none_iff_forall_ne_some, hread]

end

/-! ### Sections -/

/-- A section has the members of its table, and none where it is left out. -/
def IsSection (data : Toml.Table) (key : String) (t : Toml.Table) : Prop :=
  Stated (fun v t => v = .table t) [] (data.get? key) t

theorem table?_eq_some {v : Toml.Value} {t : Toml.Table} : v.table? = some t ↔ v = .table t := by
  cases v <;> simp [Toml.Value.table?]

theorem tableOf_eq_ok {t : Toml.Table} : tableOf data key = .ok t ↔ IsSection data key t := by
  unfold tableOf
  rw [IsSection, ← read_getD_eq_some (fun _ _ => table?_eq_some) (.table []) rfl]
  cases (data.getD key (.table [])).table? <;> simp

theorem tableOf_eq_error {f : Fault} :
    tableOf data key = .error f ↔ f = .noMembers ∧ ∃ v, data.get? key = some v ∧ ∀ t, v ≠ .table t := by
  unfold tableOf
  rw [← read_getD_eq_none (fun _ _ => table?_eq_some) (.table []) rfl]
  cases (data.getD key (.table [])).table? <;> simp [eq_comm]

/-! ### Paths -/

/-- What a walk over a value meets: the items of an array, the characters of a text, the keys of a table. -/
inductive Walked : Toml.Value → List Toml.Value → Prop
  | array (items : List Toml.Value) : Walked (.list items) items
  | characters (s : String) : Walked (.text s) (s.toList.map fun c => .text (String.singleton c))
  | keys (t : Toml.Table) : Walked (.table t) (t.keys.map .text)

theorem items?_eq_some {v : Toml.Value} {items : List Toml.Value} : v.items? = some items ↔ Walked v items := by
  constructor
  · intro h
    cases v with
    | list items =>
      cases h
      exact .array items
    | text s =>
      cases h
      exact .characters s
    | table t =>
      cases h
      exact .keys t
    | _ => cases h
  · rintro (_ | _ | _) <;> rfl

theorem itemsOf_eq_ok {items : List Toml.Value} :
    itemsOf data key = .ok items ↔ Stated Walked [] (data.get? key) items := by
  unfold itemsOf
  rw [← read_getD_eq_some (fun _ _ => items?_eq_some) (.list []) rfl]
  cases (data.getD key (.list [])).items? <;> simp

theorem itemsOf_eq_error {f : Fault} :
    itemsOf data key = .error f ↔ f = .noItems ∧ ∃ v, data.get? key = some v ∧ ∀ items, ¬Walked v items := by
  unfold itemsOf
  rw [← read_getD_eq_none (fun _ _ => items?_eq_some) (.list []) rfl]
  cases (data.getD key (.list [])).items? <;> simp [eq_comm]

/-! ### Printed values -/

theorem printed_eq_ok {v : Toml.Value} {s : String} : printed v = .ok s ↔ v.isLong = false ∧ v.print = s := by
  unfold printed
  cases v.isLong <;> simp

theorem printed_eq_error {v : Toml.Value} {f : Fault} : printed v = .error f ↔ v.isLong = true ∧ f = .longNumber := by
  unfold printed
  cases v.isLong <;> simp [eq_comm]

theorem some_printed_eq_ok {v : Toml.Value} {s : Option String} :
    some <$> printed v = .ok s ↔ v.isLong = false ∧ s = some v.print := by
  unfold printed
  cases v.isLong <;> simp [eq_comm]

theorem some_printed_eq_error {v : Toml.Value} {f : Fault} :
    some <$> printed v = .error f ↔ v.isLong = true ∧ f = .longNumber := by
  unfold printed
  cases v.isLong <;> simp [eq_comm]

/-- The path that a value stands for: none for the empty text, and otherwise what is printed for it. -/
inductive NamesPath : Toml.Value → Option String → Prop
  | empty : NamesPath (.text "") none
  | printed {v : Toml.Value} (hv : v ≠ .text "") (h : v.isLong = false) : NamesPath v (some v.print)

theorem textOf_of_given {v : Toml.Value} (hv : data.get? key = some v) (hne : v ≠ .text "") :
    textOf data key = some <$> printed v := by
  unfold textOf
  rw [hv]
  split
  · rename_i h
    cases h
  · rename_i h
    cases h
    exact absurd rfl hne
  · rename_i h
    cases h
    rfl

theorem textOf_eq_ok {s : Option String} : textOf data key = .ok s ↔ Stated NamesPath none (data.get? key) s := by
  cases hv : data.get? key with
  | none =>
    rw [textOf, hv]
    constructor
    · rintro ⟨⟩
      exact .absent
    · rintro ⟨⟩
      rfl
  | some v =>
    by_cases hne : v = .text ""
    · subst hne
      rw [textOf, hv]
      constructor
      · rintro ⟨⟩
        exact .given .empty
      · rintro (_ | _ | ⟨h, -⟩)
        · rfl
        · exact absurd rfl h
    · rw [textOf_of_given hv hne, some_printed_eq_ok]
      constructor
      · rintro ⟨hlong, rfl⟩
        exact .given (.printed hne hlong)
      · rintro (_ | _ | ⟨-, h⟩)
        · exact absurd rfl hne
        · exact ⟨h, rfl⟩

theorem textOf_eq_error {f : Fault} :
    textOf data key = .error f ↔ f = .longNumber ∧ ∃ v, data.get? key = some v ∧ v.isLong = true := by
  cases hv : data.get? key with
  | none => simp [textOf, hv]
  | some v =>
    by_cases hne : v = .text ""
    · subst hne
      simp [textOf, hv, Toml.Value.isLong]
    · rw [textOf_of_given hv hne, some_printed_eq_error]
      constructor
      · rintro ⟨hlong, rfl⟩
        exact ⟨rfl, v, rfl, hlong⟩
      · rintro ⟨rfl, _, ⟨⟩, hlong⟩
        exact ⟨hlong, rfl⟩

/-! ### Policies -/

/-- A value names a policy. -/
def NamesPolicy (v : Toml.Value) (policy : Policy) : Prop :=
  v = .text policy.name

theorem policy?_eq_some {v : Toml.Value} {policy : Policy} :
    v.text?.bind Policy.ofName? = some policy ↔ NamesPolicy v policy := by
  cases v <;> simp [Toml.Value.text?, Policy.ofName?_eq_some, NamesPolicy]

theorem policyOf_eq_ok {policy : Policy} :
    policyOf p data = .ok policy ↔ Stated NamesPolicy .refuse (data.get? "on_unknown_child") policy := by
  unfold policyOf
  rw [← read_getD_eq_some (fun _ _ => policy?_eq_some) (.text Policy.refuse.name) rfl]
  simp only
  cases (data.getD "on_unknown_child" (.text Policy.refuse.name)).text?.bind Policy.ofName? with
  | some _ => simp
  | none =>
    cases printed (data.getD "on_unknown_child" (.text Policy.refuse.name)) <;> simp [bind, Except.bind]

/-- What is wrong with a value that names no policy: it is unknown, which is said of values that can be printed. -/
inductive NoPolicy (p : Path) (v : Toml.Value) : Fault → Prop
  | unknown (h : v.isLong = false) : NoPolicy p v (.manifest p.print (.unknownPolicy v.print))
  | long (h : v.isLong = true) : NoPolicy p v .longNumber

theorem unknownPolicy_eq_error {v : Toml.Value} {f : Fault} :
    (printed v >>= fun s => (throw (.manifest p.print (.unknownPolicy s)) : Except Fault Policy)) = .error f ↔
      NoPolicy p v f := by
  rw [except_bind_eq_error]
  constructor
  · rintro (h | ⟨s, hs, ⟨⟩⟩)
    · obtain ⟨hlong, rfl⟩ := printed_eq_error.mp h
      exact .long hlong
    · obtain ⟨hlong, rfl⟩ := printed_eq_ok.mp hs
      exact .unknown hlong
  · rintro (h | h)
    · exact .inr ⟨_, printed_eq_ok.mpr ⟨h, rfl⟩, rfl⟩
    · exact .inl (printed_eq_error.mpr ⟨h, rfl⟩)

theorem policyOf_eq_error {f : Fault} :
    policyOf p data = .error f ↔ ∃ v, data.get? "on_unknown_child" = some v ∧ (∀ policy, ¬NamesPolicy v policy) ∧
      NoPolicy p v f := by
  unfold policyOf Toml.Table.getD
  cases data.get? "on_unknown_child" with
  | none =>
    constructor
    · rintro ⟨⟩
    · rintro ⟨_, ⟨⟩, -⟩
  | some v =>
    simp only [Option.getD_some, ← policy?_eq_some, Option.some.injEq, exists_eq_left']
    cases hpolicy : v.text?.bind Policy.ofName? with
    | none => simpa using unknownPolicy_eq_error
    | some policy => simp

/-! ### Manifests -/

/-- The members of its sections make a manifest. -/
structure Describes (project components render tokens : Toml.Table) (m : Manifest) : Prop where
  name : m.name = project.getD "name" (.text "anticustom")
  paths : Stated Walked [] (components.get? "paths") m.paths
  defaultStyle : m.defaultStyle = components.getD "default_style" (.text "plato")
  policy : Stated NamesPolicy .refuse (render.get? "on_unknown_child") m.policy
  placeholder : m.placeholder = render.getD "placeholder" (.text "<!-- Template not found -->")
  tokenPath : Stated NamesPath none (tokens.get? "path") m.tokenPath
  scaleSchemaPath : Stated NamesPath none (tokens.get? "scale_schema") m.scaleSchemaPath
  outputPath : Stated NamesPath none (tokens.get? "output") m.outputPath

theorem ofTable_eq_ok {m : Manifest} :
    ofTable p root data = .ok m ↔ m.root = root ∧ ∃ project components render tokens,
      IsSection data "project" project ∧ IsSection data "components" components ∧ IsSection data "render" render ∧
      IsSection data "tokens" tokens ∧ Describes project components render tokens m := by
  simp only [ofTable, except_bind_eq_ok, tableOf_eq_ok, itemsOf_eq_ok, policyOf_eq_ok, textOf_eq_ok]
  constructor
  · rintro ⟨components, hcomponents, paths, hpaths, render, hrender, policy, hpolicy, tokens, htokens, tokenPath,
      htokenPath, scaleSchemaPath, hscaleSchemaPath, outputPath, houtputPath, project, hproject, h⟩
    cases h
    exact ⟨rfl, project, components, render, tokens, hproject, hcomponents, hrender, htokens,
      ⟨rfl, hpaths, rfl, hpolicy, rfl, htokenPath, hscaleSchemaPath, houtputPath⟩⟩
  · rintro ⟨rfl, project, components, render, tokens, hproject, hcomponents, hrender, htokens, h⟩
    refine ⟨components, hcomponents, m.paths, h.paths, render, hrender, m.policy, h.policy, tokens, htokens,
      m.tokenPath, h.tokenPath, m.scaleSchemaPath, h.scaleSchemaPath, m.outputPath, h.outputPath, project, hproject,
      congrArg Except.ok ?_⟩
    obtain ⟨root, _, _, _, _, _, _, _, _⟩ := m
    obtain ⟨rfl, -, rfl, -, rfl, -, -, -⟩ := h
    rfl

/-- The members of the tokens section that stand for paths. -/
def pathKeys : List String :=
  ["path", "scale_schema", "output"]

/-- What is wrong with a manifest that is not loaded. The policy is only looked at when the paths could be walked over. -/
inductive Refused (p : Path) (data : Toml.Table) : Fault → Prop
  | section {key : String} {v : Toml.Value} (hkey : key ∈ ["project", "components", "render", "tokens"])
    (hv : data.get? key = some v) (h : ∀ t, v ≠ .table t) : Refused p data .noMembers
  | paths {components : Toml.Table} {v : Toml.Value} (hcomponents : IsSection data "components" components)
    (hv : components.get? "paths" = some v) (h : ∀ items, ¬Walked v items) : Refused p data .noItems
  | policy {components render : Toml.Table} {items : List Toml.Value} {v : Toml.Value} {f : Fault}
    (hcomponents : IsSection data "components" components) (hitems : Stated Walked [] (components.get? "paths") items)
    (hrender : IsSection data "render" render) (hv : render.get? "on_unknown_child" = some v)
    (h : ∀ policy, ¬NamesPolicy v policy) (hf : NoPolicy p v f) : Refused p data f
  | long {tokens : Toml.Table} {key : String} {v : Toml.Value} (htokens : IsSection data "tokens" tokens)
    (hkey : key ∈ pathKeys) (hv : tokens.get? key = some v) (h : v.isLong = true) : Refused p data .longNumber

theorem refused_of_ofTable {f : Fault} (h : ofTable p root data = .error f) : Refused p data f := by
  have hsection {key : String} (hkey : key ∈ ["project", "components", "render", "tokens"])
      (h : tableOf data key = .error f) : Refused p data f := by
    obtain ⟨rfl, v, hv, hnot⟩ := tableOf_eq_error.mp h
    exact .section hkey hv hnot
  unfold ofTable at h
  rcases except_bind_eq_error.mp h with h | ⟨components, hcomponents, h⟩
  · exact hsection (by decide) h
  rcases except_bind_eq_error.mp h with h | ⟨items, hitems, h⟩
  · obtain ⟨rfl, v, hv, hnot⟩ := itemsOf_eq_error.mp h
    exact .paths (tableOf_eq_ok.mp hcomponents) hv hnot
  rcases except_bind_eq_error.mp h with h | ⟨render, hrender, h⟩
  · exact hsection (by decide) h
  rcases except_bind_eq_error.mp h with h | ⟨policy, -, h⟩
  · obtain ⟨v, hv, hnot, hf⟩ := policyOf_eq_error.mp h
    exact .policy (tableOf_eq_ok.mp hcomponents) (itemsOf_eq_ok.mp hitems) (tableOf_eq_ok.mp hrender) hv hnot hf
  rcases except_bind_eq_error.mp h with h | ⟨tokens, htokens, h⟩
  · exact hsection (by decide) h
  have hpath {key : String} (hkey : key ∈ pathKeys) (h : textOf tokens key = .error f) : Refused p data f := by
    obtain ⟨rfl, v, hv, hlong⟩ := textOf_eq_error.mp h
    exact .long (tableOf_eq_ok.mp htokens) hkey hv hlong
  rcases except_bind_eq_error.mp h with h | ⟨tokenPath, -, h⟩
  · exact hpath (by decide) h
  rcases except_bind_eq_error.mp h with h | ⟨scaleSchemaPath, -, h⟩
  · exact hpath (by decide) h
  rcases except_bind_eq_error.mp h with h | ⟨outputPath, -, h⟩
  · exact hpath (by decide) h
  rcases except_bind_eq_error.mp h with h | ⟨project, -, h⟩
  · exact hsection (by decide) h
  · cases h

/-- A fault of the manifest is reported exactly for an unknown policy. -/
theorem ofTable_eq_reported {problem : ManifestProblem} :
    ofTable p root data = .error (.manifest p.print problem) ↔ Refused p data (.manifest p.print problem) := by
  constructor
  · exact refused_of_ofTable
  · intro h
    cases h with
    | policy hcomponents hitems hrender hv hnot hf =>
      refine except_bind_eq_error.mpr (.inr ⟨_, tableOf_eq_ok.mpr hcomponents, ?_⟩)
      refine except_bind_eq_error.mpr (.inr ⟨_, itemsOf_eq_ok.mpr hitems, ?_⟩)
      refine except_bind_eq_error.mpr (.inr ⟨_, tableOf_eq_ok.mpr hrender, ?_⟩)
      exact except_bind_eq_error.mpr (.inl (policyOf_eq_error.mpr ⟨_, hv, hnot, hf⟩))

/-! ### The promise of a manifest -/

/-- A text for each item of an array. -/
def IsArrayOf (v : Toml.Value) (written : List String) : Prop :=
  v = .list (written.map .text)

/-- The paths of a manifest are the texts of its array, or a fault of the manifest is reported. -/
inductive Promised (p : Path) (data : Toml.Table) : Except Fault Manifest → Prop
  | loaded {components : Toml.Table} {written : List String} {m : Manifest}
    (hcomponents : IsSection data "components" components)
    (hwritten : Stated IsArrayOf [] (components.get? "paths") written) (hm : m.paths = written.map .text) :
    Promised p data (.ok m)
  | reported (problem : ManifestProblem) : Promised p data (.error (.manifest p.print problem))

/-- The sections are tables, the paths are an array of texts, the policy is known and the paths of the tokens can be
printed. -/
inductive WellShaped (data : Toml.Table) : Prop
  | intro {project components render tokens : Toml.Table} {written : List String} {policy : Policy}
    (hproject : IsSection data "project" project) (hcomponents : IsSection data "components" components)
    (hrender : IsSection data "render" render) (htokens : IsSection data "tokens" tokens)
    (hwritten : Stated IsArrayOf [] (components.get? "paths") written)
    (hpolicy : Stated NamesPolicy .refuse (render.get? "on_unknown_child") policy)
    (hprinted : ∀ key ∈ pathKeys, ∀ v, tokens.get? key = some v → v.isLong = false)

theorem walked_of_isArrayOf {found : Option Toml.Value} {written : List String}
    (h : Stated IsArrayOf [] found written) : Stated Walked [] found (written.map .text) := by
  cases h with
  | absent => exact .absent
  | given h =>
    rw [IsArrayOf] at h
    exact .given (h ▸ .array _)

theorem exists_namesPath {found : Option Toml.Value} (h : ∀ v, found = some v → v.isLong = false) :
    ∃ s, Stated NamesPath none found s := by
  cases found with
  | none => exact ⟨none, .absent⟩
  | some v =>
    by_cases hne : v = .text ""
    · exact ⟨none, .given (hne ▸ .empty)⟩
    · exact ⟨some v.print, .given (.printed hne (h v rfl))⟩

theorem isLong_of_namesPath {found : Option Toml.Value} {s : Option String} (h : Stated NamesPath none found s)
    {v : Toml.Value} (hv : found = some v) : v.isLong = false := by
  subst hv
  obtain _ | h := h
  cases h with
  | empty => rfl
  | printed _ h => exact h

theorem Describes.isLong {project components render tokens : Toml.Table} {m : Manifest}
    (h : Describes project components render tokens m) :
    ∀ key ∈ pathKeys, ∀ v, tokens.get? key = some v → v.isLong = false := by
  intro key hkey v hv
  simp only [pathKeys, List.mem_cons, List.not_mem_nil, or_false] at hkey
  obtain rfl | rfl | rfl := hkey
  · exact isLong_of_namesPath h.tokenPath hv
  · exact isLong_of_namesPath h.scaleSchemaPath hv
  · exact isLong_of_namesPath h.outputPath hv

theorem WellShaped.exists_ofTable (h : WellShaped data) (root : Path) :
    ∃ m components written, ofTable p root data = .ok m ∧ IsSection data "components" components ∧
      Stated IsArrayOf [] (components.get? "paths") written ∧ m.paths = written.map .text := by
  obtain ⟨hproject, hcomponents, hrender, htokens, hwritten, hpolicy, hprinted⟩ := h
  obtain ⟨tokenPath, htokenPath⟩ := exists_namesPath (hprinted "path" (by decide))
  obtain ⟨scaleSchemaPath, hscaleSchemaPath⟩ := exists_namesPath (hprinted "scale_schema" (by decide))
  obtain ⟨outputPath, houtputPath⟩ := exists_namesPath (hprinted "output" (by decide))
  exact ⟨⟨root, _, _, _, _, _, tokenPath, scaleSchemaPath, outputPath⟩, _, _,
    ofTable_eq_ok.mpr ⟨rfl, _, _, _, _, hproject, hcomponents, hrender, htokens,
      ⟨rfl, walked_of_isArrayOf hwritten, rfl, hpolicy, rfl, htokenPath, hscaleSchemaPath, houtputPath⟩⟩,
    hcomponents, hwritten, rfl⟩

theorem promised_iff :
    Promised p data (ofTable p root data) ↔
      WellShaped data ∨ ∃ problem, Refused p data (.manifest p.print problem) := by
  constructor
  · intro h
    cases hresult : ofTable p root data with
    | ok m =>
      obtain ⟨-, project, components, render, tokens, hproject, -, hrender, htokens, hm⟩ := ofTable_eq_ok.mp hresult
      rw [hresult] at h
      cases h with
      | loaded hcomponents hwritten _ =>
        exact .inl ⟨hproject, hcomponents, hrender, htokens, hwritten, hm.policy, hm.isLong⟩
    | error f =>
      rw [hresult] at h
      cases h with
      | reported problem => exact .inr ⟨problem, refused_of_ofTable hresult⟩
  · rintro (h | ⟨problem, h⟩)
    · obtain ⟨m, components, written, hm, hcomponents, hwritten, hpaths⟩ := h.exists_ofTable root
      rw [hm]
      exact .loaded hcomponents hwritten hpaths
    · rw [ofTable_eq_reported.mpr h]
      exact .reported problem

/-! ### Files -/

theorem load_of_data {t : FileTree} {text : String} (htext : t.read p = .ok text) (hdata : Toml.read text = .ok data) :
    load t p = ofTable p (t.resolve p.parent) data := by
  simp only [load, htext, bind, Except.bind, hdata]

theorem load_of_failure {t : FileTree} {text : String} {failure : Toml.Failure} (htext : t.read p = .ok text)
    (hdata : Toml.read text = .error failure) : load t p = .error (faultOf p failure) := by
  simp only [load, htext, bind, Except.bind, hdata]
  rfl

/-- An assignment of an integer with too many digits is a fault that is not reported. -/
theorem load_of_long {t : FileTree} {c : Char} {ds : List Char}
    (hfile : t.find? p = some (.ofText (String.ofList ('n' :: '=' :: c :: ds))))
    (hdigits : ∀ d ∈ c :: ds, d.isDigit = true) (hc : c ≠ '0') (hlong : Toml.Value.mostDigits < (c :: ds).length) :
    load t p = .error .longNumber := by
  have hbreak : '\r' ∉ (String.ofList ('n' :: '=' :: c :: ds)).toList := by
    rw [String.toList_ofList]
    intro h
    obtain h | h := List.mem_cons.mp h
    · cases h
    obtain h | h := List.mem_cons.mp h
    · cases h
    · cases hdigits _ h
  have hskip : Toml.skip (c :: ds) = c :: ds := by
    refine List.dropWhile_cons_of_neg fun h => ?_
    rw [Toml.isBlank, Bool.or_eq_true, beq_iff_eq, beq_iff_eq] at h
    have hdigit := hdigits c List.mem_cons_self
    obtain rfl | rfl := h <;> cases hdigit
  have hvalue : Toml.value (2 * (c :: ds).length + 2) (Toml.skip (c :: ds)) = .error .longNumber := by
    rw [hskip, Toml.value_of_digits hdigits hc, if_pos hlong]
  have hlist : Toml.skip (String.ofList ('n' :: '=' :: c :: ds)).toList = 'n' :: '=' :: c :: ds := by
    rw [String.toList_ofList]
    rfl
  have hkey : Toml.key (('=' :: c :: ds).length + 2) ('n' :: '=' :: c :: ds) = some (["n"], '=' :: c :: ds) := by rfl
  exact load_of_failure (FileTree.read_of_find? hfile hbreak) (Toml.read_of_failure hlist (by rfl) hkey hvalue)

/-- What comes of a manifest file. A text that is no document is reported, but one that has too long an integer before
it stops being a document is a fault that is not. A document is loaded exactly where its sections describe a manifest;
otherwise a section, the paths, the policy or an integer to be printed is at fault. What is promised of manifests holds
exactly of documents that are well shaped and of those that are refused for their policy. -/
theorem load_of_shape {t : FileTree} {p : Path} {text : String} (htext : t.read p = .ok text) :
    (Toml.read text = .error .malformed → load t p = .error (.manifest p.print .unreadable)) ∧
    (Toml.read text = .error .longNumber → load t p = .error .longNumber) ∧
    ∀ data, Toml.read text = .ok data →
      (∀ m, load t p = .ok m ↔ m.root = t.resolve p.parent ∧ ∃ project components render tokens,
        IsSection data "project" project ∧ IsSection data "components" components ∧ IsSection data "render" render ∧
        IsSection data "tokens" tokens ∧ Describes project components render tokens m) ∧
      (∀ f, load t p = .error f → Refused p data f) ∧
      (Promised p data (load t p) ↔ WellShaped data ∨ ∃ problem, Refused p data (.manifest p.print problem)) := by
  refine ⟨load_of_failure htext, load_of_failure htext, fun data hdata => ?_⟩
  rw [load_of_data htext hdata]
  exact ⟨fun m => ofTable_eq_ok, fun f => refused_of_ofTable, promised_iff⟩

/-- Two directories, in their order. -/
theorem load_of_shape_two :
    let data : Toml.Table := [("components", .table [("paths", .list [.text "b", .text "a"])])]
    let t : FileTree := ⟨[], [(⟨.project, ["a.toml"]⟩, .ofText "components.paths = [\"b\", \"a\"]")]⟩
    let p := Path.ofText "a.toml"
    t.read p = .ok "components.paths = [\"b\", \"a\"]" ∧
    Toml.read "components.paths = [\"b\", \"a\"]" = .ok data ∧ Promised p data (load t p) := by
  intro data t p
  have htext : t.read p = .ok "components.paths = [\"b\", \"a\"]" := by rfl
  have hkey : Toml.key ("omponents.paths = [\"b\", \"a\"]".toList.length + 2)
      ('c' :: "omponents.paths = [\"b\", \"a\"]".toList) =
      some (["components", "paths"], '=' :: " [\"b\", \"a\"]".toList) := by rfl
  have hvalue : Toml.value (2 * " [\"b\", \"a\"]".toList.length + 2) (Toml.skip " [\"b\", \"a\"]".toList) =
      .ok (.list [.text "b", .text "a"], []) := by cbv
  have hdata : Toml.read "components.paths = [\"b\", \"a\"]" = .ok data :=
    Toml.read_assignment (by rfl) (by rfl) hkey hvalue (by rfl)
  refine ⟨htext, hdata, ((load_of_shape htext).2.2 data hdata).2.2.mpr (.inl ?_)⟩
  have hcomponents : IsSection data "components" [("paths", .list [.text "b", .text "a"])] := .given rfl
  have hwritten : Stated IsArrayOf [] (some (.list [.text "b", .text "a"])) ["b", "a"] := .given rfl
  have hpolicy : Stated NamesPolicy .refuse none .refuse := .absent
  exact ⟨.absent, hcomponents, .absent, .absent, hwritten, hpolicy, fun _ _ _ h => by cases h⟩

/-- A text in place of a table is a fault that is not reported, as is a day in place of the array and an integer of too
many digits. A text in place of the array becomes directories of one letter each. -/
theorem load_misshapen :
    let p := Path.ofText "a.toml"
    let tree (text : String) : FileTree := ⟨[], [(⟨.project, ["a.toml"]⟩, .ofText text)]⟩
    (∃ data, Toml.read "components = \"lib\"" = .ok data ∧ load (tree "components = \"lib\"") p = .error .noMembers ∧
      ¬Promised p data (load (tree "components = \"lib\"") p)) ∧
    (∃ data, Toml.read "components.paths = 1979-05-27" = .ok data ∧
      load (tree "components.paths = 1979-05-27") p = .error .noItems ∧
      ¬Promised p data (load (tree "components.paths = 1979-05-27") p)) ∧
    load (tree (String.ofList ('n' :: '=' :: List.replicate 4301 '1'))) p = .error .longNumber ∧
    ∃ data m, Toml.read "components.paths = \"lib\"" = .ok data ∧ load (tree "components.paths = \"lib\"") p = .ok m ∧
      m.paths = [.text "l", .text "i", .text "b"] ∧ ¬Promised p data (load (tree "components.paths = \"lib\"") p) := by
  intro p tree
  refine ⟨?_, ?_, ?_, ?_⟩
  · have hkey : Toml.key ("omponents = \"lib\"".toList.length + 2) ('c' :: "omponents = \"lib\"".toList) =
        some (["components"], '=' :: " \"lib\"".toList) := by rfl
    have hdata : Toml.read "components = \"lib\"" = .ok [("components", .text "lib")] :=
      Toml.read_assignment (by rfl) (by rfl) hkey (by rfl) (by rfl)
    have hload : load (tree "components = \"lib\"") p = .error .noMembers := load_of_data (by rfl) hdata
    refine ⟨_, hdata, hload, fun h => ?_⟩
    rw [hload] at h
    cases h
  · have hkey : Toml.key ("omponents.paths = 1979-05-27".toList.length + 2)
        ('c' :: "omponents.paths = 1979-05-27".toList) =
        some (["components", "paths"], '=' :: " 1979-05-27".toList) := by rfl
    have hdata : Toml.read "components.paths = 1979-05-27" = .ok [("components", .table [("paths",
        .moment (.day ⟨1979, 5, 27, by decide, by decide, by decide⟩))])] :=
      Toml.read_assignment (by rfl) (by rfl) hkey (by rfl) (by rfl)
    have hload : load (tree "components.paths = 1979-05-27") p = .error .noItems := load_of_data (by rfl) hdata
    refine ⟨_, hdata, hload, fun h => ?_⟩
    rw [hload] at h
    cases h
  · have hdigits : ∀ d ∈ '1' :: List.replicate 4300 '1', d.isDigit = true := by
      intro d hd
      obtain rfl : d = '1' := List.eq_of_mem_replicate (n := 4301) hd
      rfl
    have hlong : Toml.Value.mostDigits < ('1' :: List.replicate 4300 '1').length := by
      rw [List.length_cons, List.length_replicate]
      decide
    exact load_of_long (by rfl) hdigits (by decide) hlong
  · have hkey : Toml.key ("omponents.paths = \"lib\"".toList.length + 2) ('c' :: "omponents.paths = \"lib\"".toList) =
        some (["components", "paths"], '=' :: " \"lib\"".toList) := by rfl
    have hdata : Toml.read "components.paths = \"lib\"" = .ok [("components", .table [("paths", .text "lib")])] :=
      Toml.read_assignment (by rfl) (by rfl) hkey (by rfl) (by rfl)
    have htext : (tree "components.paths = \"lib\"").read p = .ok "components.paths = \"lib\"" := by rfl
    have hload := load_of_data htext hdata
    refine ⟨_, _, hdata, hload, rfl, fun h => ?_⟩
    rw [hload] at h
    cases h with
    | loaded hcomponents hwritten _ =>
      obtain rfl : _ = [("paths", Toml.Value.text "lib")] := by
        cases hcomponents with
        | given h => exact (Toml.Value.table.inj h).symm
      cases hwritten with
      | given h => cases h

end Manifest
end DesignKit
