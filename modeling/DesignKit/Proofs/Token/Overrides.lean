import DesignKit.Proofs.ScaleSchema
import DesignKit.Proofs.Sizes
import DesignKit.Proofs.Token.Names
import DesignKit.Proofs.Token.Sections

/-! # Overrides are local

The sections for spacing, text and headings give each position of their scale a block of tokens: its size and,
for a heading, what else its entry declares. An entry among the sizes of such a section reaches the blocks of the
positions of its name and nothing else. An entry that overrides a size is taken as it is; where all positions are
overridden the parameters of the scale make no difference. -/

namespace DesignKit
namespace TokenDocument
open Number

/-! ### Tokens around a section -/

/-- The tokens of two compilations, one after the other. -/
def joined (x y : Except Fault (List Token)) : Except Fault (List Token) := do
  return (← x) ++ (← y)

theorem joined_assoc (x y z : Except Fault (List Token)) : joined (joined x y) z = joined x (joined y z) := by
  cases x with
  | error fault => rfl
  | ok a =>
    cases y with
    | error fault => rfl
    | ok b =>
      cases z with
      | error fault => rfl
      | ok c => exact congrArg Except.ok (List.append_assoc a b c)

theorem joined_nil (x : Except Fault (List Token)) : joined (.ok []) x = x := by
  cases x <;> rfl

theorem joined_eq_ok {x y : Except Fault (List Token)} {table : List Token} :
    joined x y = .ok table ↔ ∃ a b, x = .ok a ∧ y = .ok b ∧ table = a ++ b := by
  unfold joined
  constructor
  · intro h
    obtain ⟨a, ha, h⟩ := except_bind_eq_ok.mp h
    obtain ⟨b, hb, h⟩ := except_bind_eq_ok.mp h
    cases h
    exact ⟨a, b, ha, hb, rfl⟩
  · rintro ⟨a, b, rfl, rfl, rfl⟩
    rfl

namespace Section

theorem compileAll_cons_eq_joined (s : Section) (ss : List Section) (m : Members) :
    compileAll (s :: ss) m = joined (s.compile m) (compileAll ss m) :=
  compileAll_cons s ss m

theorem compileAll_congr {ss : List Section} {m n : Members} (h : ∀ s ∈ ss, m.get s.key = n.get s.key) :
    compileAll ss m = compileAll ss n := by
  induction ss with
  | nil => rfl
  | cons s rest ih =>
    obtain ⟨hs, hrest⟩ := List.forall_mem_cons.mp h
    rw [compileAll_cons_eq_joined, compileAll_cons_eq_joined, s.compile_congr hs, ih hrest]

/-- The tokens of a section stand between those of the others, which do not depend on its member. -/
theorem compileAll_around {ss : List Section} (hkeys : (ss.map (·.key)).Nodup) {s : Section} (hs : s ∈ ss)
    (m : Members) :
    ∃ before after, ∀ n : Members, (∀ k, k ≠ s.key → m.get k = n.get k) →
      compileAll ss n = joined before (joined (s.compile n) after) := by
  induction ss with
  | nil => cases hs
  | cons t rest ih =>
    obtain ⟨hnot, hrest⟩ := List.nodup_cons.mp hkeys
    rcases List.mem_cons.mp hs with rfl | hs
    · refine ⟨.ok [], compileAll rest m, fun n hn => ?_⟩
      have hothers : compileAll rest m = compileAll rest n :=
        compileAll_congr fun t ht => hn t.key fun heq => hnot (List.mem_map.mpr ⟨t, ht, heq⟩)
      rw [compileAll_cons_eq_joined, joined_nil, hothers]
    · obtain ⟨before, after, hall⟩ := ih hrest hs
      refine ⟨joined (t.compile m) before, after, fun n hn => ?_⟩
      have hne : t.key ≠ s.key := fun heq => hnot (List.mem_map.mpr ⟨s, hs, heq.symm⟩)
      rw [compileAll_cons_eq_joined, hall n hn, joined_assoc, t.compile_congr (hn t.key hne)]

end Section

/-- A part of the typography that does nothing without the object under its key. -/
def Section.ofTypography (key : String) (compile : Members → Except Fault (List Token))
    (k : Option Members → Except Fault (List Token)) (hcompile : ∀ m, compile m = section? m key "typography." >>= k)
    (hnone : k none = .ok []) : Section where
  key := key
  compile := compile
  compile_congr {m n} h := by
    have hsection : section? m key "typography." = section? n key "typography." := by rw [section?, section?, h]
    rw [hcompile, hcompile, hsection]
  compile_absent {m} h := by
    have hsection : section? m key "typography." = .ok none := by rw [section?, h]
    rw [hcompile, hsection]
    exact hnone

def textSection (schema : ScaleSchema) : Section :=
  .ofTypography "text" (textTokens schema) _ (fun _ => rfl) rfl

def headingsSection (schema : ScaleSchema) : Section :=
  .ofTypography "headings" (headingTokens schema) _ (fun _ => rfl) rfl

theorem section?_object {data m : Members} {key : String} (h : data.get key = .object m)
    (place : String) : section? data key place = .ok (some m) := by
  rw [section?, h]

theorem typographyTokens_eq_compileAll (schema : ScaleSchema) {doc typography : Members}
    (h : doc.get "typography" = .object typography) :
    typographyTokens schema doc = Section.compileAll [textSection schema, headingsSection schema] typography := by
  have hnil : Section.compileAll [] typography = pure [] := rfl
  rw [typographyTokens, section?_object h]
  simp only [Section.compileAll_cons, hnil, bind_assoc, pure_bind, List.append_nil]
  rfl

/-! ### Documents that differ within a section -/

/-- Two values are objects that agree but under a chain of keys, which leads to related objects. -/
inductive DifferUnder (R : Members → Members → Prop) : List String → Value → Value → Prop
  | here {m n : Members} (h : R m n) : DifferUnder R [] (.object m) (.object n)
  | under {key : String} {path : List String} {m n : Members} (hothers : ∀ k, k ≠ key → m.get k = n.get k)
    (h : DifferUnder R path (m.get key) (n.get key)) : DifferUnder R (key :: path) (.object m) (.object n)

/-- The object that a chain of keys leads to. -/
def objectAt? : List String → Value → Option Members
  | [], v => v.members?
  | key :: path, v => v.members?.bind fun m => objectAt? path (m.get key)

/-- A document does not differ from itself. -/
theorem differUnder_refl {path : List String} {doc : Value} {data : Members} (h : objectAt? path doc = some data) :
    DifferUnder (fun m n => m = data ∧ n = data) path doc doc := by
  induction path generalizing doc with
  | nil =>
    cases doc with
    | object m =>
      cases h
      exact .here ⟨rfl, rfl⟩
    | _ => cases h
  | cons key path ih =>
    cases doc with
    | object m => exact .under (fun _ _ => rfl) (ih h)
    | _ => cases h

namespace DifferUnder
variable {R : Members → Members → Prop} {path : List String} {key : String} {v w : Value}

theorem here_cases (h : DifferUnder R [] v w) : ∃ m n, v = .object m ∧ w = .object n ∧ R m n := by
  cases h with
  | here h => exact ⟨_, _, rfl, rfl, h⟩

theorem under_cases (h : DifferUnder R (key :: path) v w) :
    ∃ m n : Members, v = .object m ∧ w = .object n ∧ (∀ k, k ≠ key → m.get k = n.get k) ∧
      DifferUnder R path (m.get key) (n.get key) := by
  cases h with
  | under hothers h => exact ⟨_, _, rfl, rfl, hothers, h⟩

end DifferUnder

/-- Only the entry of a name among the sizes differs. -/
def DifferInEntry (name : String) (data data' : Members) : Prop :=
  (∀ k, k ≠ "sizes" → data.get k = data'.get k) ∧
    ∀ k, k ≠ name → (inner data "sizes").get k = (inner data' "sizes").get k

/-- A value that is a number within the range of doubles, or none at all. -/
inductive IsParameter : Value → Prop
  | absent : IsParameter .null
  | int {n : Int} (h : ofInt? n ≠ none) : IsParameter (.int n)
  | float (x : Float) : IsParameter (.float x)
  | text {s : String} (h : readFloat? s ≠ none) : IsParameter (.text s)

/-- Only the parameters of the scale differ, and all of them are numbers. -/
def DifferInScale (data data' : Members) : Prop :=
  (∀ k, k ∉ parameterKeys → data.get k = data'.get k) ∧
    ∀ k ∈ parameterKeys, IsParameter (data.get k) ∧ IsParameter (data'.get k)

theorem number_of_isParameter {v : Value} (h : IsParameter v) (place : String) (default : Float) :
    ∃ x, number v place default = .ok x := by
  cases h with
  | absent => exact ⟨default, rfl⟩
  | int h =>
    obtain ⟨x, hx⟩ := Option.ne_none_iff_exists'.mp h
    exact ⟨x, by rw [number, ofInt, hx]⟩
  | float x => exact ⟨x, rfl⟩
  | text h =>
    obtain ⟨x, hx⟩ := Option.ne_none_iff_exists'.mp h
    exact ⟨x, by rw [number, hx]⟩

theorem scaleOf_of_isParameter {data : Members} (h : ∀ k ∈ parameterKeys, IsParameter (data.get k)) (default : Scale)
    (place : String) : ∃ scale, scaleOf data default place = .ok scale := by
  obtain ⟨base, hbase⟩ := number_of_isParameter (h "baseSize" (by simp [parameterKeys])) (place ++ "baseSize") default.base
  obtain ⟨factor, hfactor⟩ := number_of_isParameter (h "scale" (by simp [parameterKeys])) (place ++ "scale") default.factor
  refine ⟨⟨base, factor⟩, ?_⟩
  rw [scaleOf, hbase, hfactor]
  rfl

theorem scaleOf_of_differInEntry {name : String} {data data' : Members} (h : DifferInEntry name data data')
    (default : Scale) (place : String) : scaleOf data default place = scaleOf data' default place := by
  rw [scaleOf, scaleOf, h.1 "baseSize" (by decide), h.1 "scale" (by decide)]

/-! ### Sizes -/

theorem overridesOf_eq_ok {data overrides : Members} {place : String} (h : overridesOf data place = .ok overrides) :
    overrides = inner data "sizes" := by
  obtain ⟨found, hfound, h⟩ := except_bind_eq_ok.mp h
  cases h
  rw [section?_eq_ok hfound]
  rfl

/-- The size token of an override: a text that is no number as it is, any other value as a number of pixels. -/
theorem pixels_eq (v : Value) :
    (∀ s, v = .text s → readFloat? s = none → pixels v = s) ∧
      ((∀ s, v = .text s → readFloat? s ≠ none) → pixels v = numberText v ++ "px") := by
  constructor
  · rintro s rfl hs
    rw [pixels, hs]
    rfl
  · intro h
    cases v with
    | text s =>
      rw [pixels, if_pos (Option.isSome_iff_ne_none.mpr (h s rfl))]
      rfl
    | _ => rfl

end TokenDocument

/-! ### Sections with a scale -/

namespace ScalePart
open TokenDocument

/-- The keys that lead to the section. -/
def path : ScalePart → List String
  | spacing => ["spacing"]
  | text => ["typography", "text"]
  | headings => ["typography", "headings"]

/-- The place of the section in faults. -/
def place : ScalePart → String
  | spacing => "spacing."
  | text => "typography.text."
  | headings => "typography.headings."

/-- The scale that gives the parameters that are missing. -/
def default : ScalePart → Scale
  | spacing => ⟨16.0, 1.5⟩
  | text => ⟨16.0, 1.125⟩
  | headings => ⟨16.0, 1.618⟩

/-- The places after the point that sizes keep. -/
def digits : ScalePart → Int
  | spacing => 0
  | text => 1
  | headings => 0

def category : ScalePart → Category
  | spacing => .spacing
  | text => .typography
  | headings => .typography

/-- The variable that has the size of a position. -/
def sizeName (part : ScalePart) (p : ScalePosition) : String :=
  match part with
  | spacing => "--space-" ++ p.name
  | text => "--text-" ++ p.name
  | headings => "--" ++ headingKey p

/-- What an entry declares besides the size. -/
def extras (part : ScalePart) (p : ScalePosition) (entry : Value) : List Token :=
  match part with
  | headings => extraTokens (headingKey p) entry
  | _ => []

/-- The tokens of a position, given its size. -/
def block (part : ScalePart) (overrides : Members) (size : String) (p : ScalePosition) : List Token :=
  ⟨part.sizeName p, part.category.name, size⟩ :: part.extras p (overrides.get p.name)

/-- The tokens of a section: a block for each position. -/
def tokens (part : ScalePart) (schema : ScaleSchema) (data : Members) : Except Fault (List Token) := do
  let scale ← scaleOf data part.default part.place
  let overrides ← overridesOf data part.place
  let values ← scale.sizes overrides part.digits (part.positions schema)
  return (part.positions schema).flatMap fun p => part.block overrides (pixels (values.get p.name)) p

theorem spacingTokens_eq (schema : ScaleSchema) {doc data : Members} (h : doc.get "spacing" = .object data) :
    spacingTokens schema doc = spacing.tokens schema data := by
  rw [spacingTokens, section?_object h]
  simp only [tokens, block, extras, ← List.map_eq_flatMap]
  rfl

theorem textTokens_eq (schema : ScaleSchema) {typography data : Members}
    (h : typography.get "text" = .object data) : textTokens schema typography = text.tokens schema data := by
  rw [textTokens, section?_object h]
  simp only [tokens, block, extras, ← List.map_eq_flatMap]
  rfl

theorem headingTokens_eq (schema : ScaleSchema) {typography data : Members}
    (h : typography.get "headings" = .object data) :
    headingTokens schema typography = headings.tokens schema data := by
  rw [headingTokens, section?_object h]
  rfl

/-! ### Blocks -/

/-- How the tokens of a section lie in a table: between those of the other sections, a block for each position in
order, with the sizes given by name. -/
structure Laid (part : ScalePart) (schema : ScaleSchema) (data : Members) (table before after : List Token)
    (size : String → String) : Prop where
  tokens : part.tokens schema data =
    .ok ((part.positions schema).flatMap fun p => part.block (inner data "sizes") (size p.name) p)
  table : table =
    before ++ ((part.positions schema).flatMap fun p => part.block (inner data "sizes") (size p.name) p) ++ after

/-- A section that compiles has a scale on which all its positions have values. -/
theorem tokens_eq_ok {part : ScalePart} {schema : ScaleSchema} {data : Members} {tokens : List Token}
    (h : part.tokens schema data = .ok tokens) :
    ∃ scale values, scaleOf data part.default part.place = .ok scale ∧
      scale.sizes (inner data "sizes") part.digits (part.positions schema) = .ok values ∧
      tokens = (part.positions schema).flatMap fun p =>
        part.block (inner data "sizes") (pixels (values.get p.name)) p := by
  obtain ⟨scale, hscale, h⟩ := except_bind_eq_ok.mp h
  obtain ⟨overrides, hoverrides, h⟩ := except_bind_eq_ok.mp h
  obtain ⟨values, hvalues, h⟩ := except_bind_eq_ok.mp h
  cases h
  rw [overridesOf_eq_ok hoverrides] at hvalues ⊢
  exact ⟨scale, values, hscale, hvalues, rfl⟩

theorem tokens_of_scale {part : ScalePart} {schema : ScaleSchema} {data : Members} {scale : Scale}
    (h : scaleOf data part.default part.place = .ok scale) :
    part.tokens schema data = (overridesOf data part.place >>= fun overrides =>
      scale.sizes overrides part.digits (part.positions schema) >>= fun values =>
        pure ((part.positions schema).flatMap fun p => part.block overrides (pixels (values.get p.name)) p)) := by
  rw [tokens, h]
  rfl

/-- Where all positions are overridden a section compiles alike with any scale. -/
theorem tokens_of_overridden {part : ScalePart} {schema : ScaleSchema} {data data' : Members}
    (h : DifferInScale data data')
    (hall : ∀ p ∈ part.positions schema, (override? (inner data "sizes") p.name).isSome = true) :
    part.tokens schema data = part.tokens schema data' := by
  obtain ⟨hothers, hparameters⟩ := h
  obtain ⟨scale, hscale⟩ := scaleOf_of_isParameter (fun k hk => (hparameters k hk).1) part.default part.place
  obtain ⟨scale', hscale'⟩ := scaleOf_of_isParameter (fun k hk => (hparameters k hk).2) part.default part.place
  have hsizes : data.get "sizes" = data'.get "sizes" := hothers "sizes" (by decide)
  have hoverrides : overridesOf data part.place = overridesOf data' part.place := by
    rw [overridesOf, overridesOf, section?, section?, hsizes]
  rw [tokens_of_scale hscale, tokens_of_scale hscale', hoverrides]
  refine except_bind_congr fun overrides hfound => ?_
  rw [← overridesOf_eq_ok (hoverrides.trans hfound)] at hall
  rw [Scale.sizes_of_overridden hall scale scale']

/-- Two sections that differ in the entry of a name give the other names the same sizes and have the same blocks
at their positions. -/
theorem block_congr {part : ScalePart} {schema : ScaleSchema} {data data' values values' : Members}
    {scale : Scale} {name : String} (h : DifferInEntry name data data')
    (hvalues : scale.sizes (inner data "sizes") part.digits (part.positions schema) = .ok values)
    (hvalues' : scale.sizes (inner data' "sizes") part.digits (part.positions schema) = .ok values')
    {p : ScalePosition} (hp : p.name ≠ name) :
    part.block (inner data "sizes") (pixels (values.get p.name)) p =
      part.block (inner data' "sizes") (pixels (values'.get p.name)) p := by
  have hentry : (inner data "sizes").get p.name = (inner data' "sizes").get p.name := h.2 p.name hp
  have hoverride : override? (inner data "sizes") p.name = override? (inner data' "sizes") p.name := by
    rw [override?, override?, hentry]
  rw [block, block, hentry, Scale.get_sizes_congr hvalues hvalues' hoverride]

/-- A table around a section that compiles. -/
theorem laid_of_joined {part : ScalePart} {schema : ScaleSchema} {data : Members} {table : Table}
    {x y : Except Fault (List Token)} (h : joined x (joined (part.tokens schema data) y) = .ok table) :
    ∃ before after scale values, x = .ok before ∧ y = .ok after ∧ scaleOf data part.default part.place = .ok scale ∧
      scale.sizes (inner data "sizes") part.digits (part.positions schema) = .ok values ∧
      part.Laid schema data table before after fun name => pixels (values.get name) := by
  obtain ⟨before, rest, hbefore, hrest, rfl⟩ := joined_eq_ok.mp h
  obtain ⟨tokens, after, htokens, hafter, rfl⟩ := joined_eq_ok.mp hrest
  obtain ⟨scale, values, hscale, hvalues, rfl⟩ := tokens_eq_ok htokens
  exact ⟨before, after, scale, values, hbefore, hafter, hscale, hvalues, htokens, (List.append_assoc ..).symm⟩

end ScalePart

namespace TokenDocument
open Number

/-! ### Documents -/

variable {rounding : Color.Rounding}

theorem nodup_keys_sections (schema : ScaleSchema) : ((sections rounding schema).map (·.key)).Nodup := by
  rw [keys_sections]
  decide

/-- A compilation around a section: what its tokens stand between is the same in both documents. -/
def SameAround (rounding : Color.Rounding) (schema : ScaleSchema) (tokens : Members → Except Fault (List Token))
    (R : Members → Members → Prop) (path : List String) (doc doc' : Value) : Prop :=
  ∃ data data' before after, R data data' ∧ objectAt? path doc = some data ∧ objectAt? path doc' = some data' ∧
    compile rounding schema doc = joined before (joined (tokens data) after) ∧
    compile rounding schema doc' = joined before (joined (tokens data') after)

theorem sameAround_spacing (schema : ScaleSchema) {R : Members → Members → Prop} {doc doc' : Value}
    (h : DifferUnder R ["spacing"] doc doc') :
    SameAround rounding schema (ScalePart.spacing.tokens schema) R ["spacing"] doc doc' := by
  obtain ⟨m, n, rfl, rfl, hothers, h⟩ := h.under_cases
  obtain ⟨data, data', hdata, hdata', hR⟩ := h.here_cases
  have hmem : spacingSection schema ∈ sections rounding schema := by simp [sections]
  have htokens : ∀ {doc a : Members}, doc.get "spacing" = .object a →
      (spacingSection schema).compile doc = ScalePart.spacing.tokens schema a := ScalePart.spacingTokens_eq schema
  obtain ⟨before, after, hall⟩ := Section.compileAll_around (nodup_keys_sections schema) hmem m
  refine ⟨data, data', before, after, hR, congrArg Value.members? hdata, congrArg Value.members? hdata', ?_, ?_⟩
  · rw [compile_eq_compileAll, hall m fun _ _ => rfl, htokens hdata]
  · rw [compile_eq_compileAll, hall n hothers, htokens hdata']

/-- The sections of the typography are themselves sections of an object. -/
theorem sameAround_typography {schema : ScaleSchema} {s : Section} (hs : s ∈ [textSection schema, headingsSection schema])
    {tokens : Members → Except Fault (List Token)}
    (htokens : ∀ {t data : Members}, t.get s.key = .object data → s.compile t = tokens data)
    {R : Members → Members → Prop} {doc doc' : Value} (h : DifferUnder R ["typography", s.key] doc doc') :
    SameAround rounding schema tokens R ["typography", s.key] doc doc' := by
  obtain ⟨m, n, rfl, rfl, hothers, h⟩ := h.under_cases
  obtain ⟨t, t', ht, ht', hothers', h⟩ := h.under_cases
  obtain ⟨data, data', hdata, hdata', hR⟩ := h.here_cases
  have hkeys : ([textSection schema, headingsSection schema].map (·.key)).Nodup := by
    show ["text", "headings"].Nodup
    decide
  have hmem : typographySection schema ∈ sections rounding schema := by simp [sections]
  have htypography : ∀ {doc a : Members}, doc.get "typography" = .object a →
      (typographySection schema).compile doc = Section.compileAll [textSection schema, headingsSection schema] a :=
    typographyTokens_eq_compileAll schema
  obtain ⟨before, after, hall⟩ := Section.compileAll_around (nodup_keys_sections schema) hmem m
  obtain ⟨before', after', hall'⟩ := Section.compileAll_around hkeys hs t
  refine ⟨data, data', joined before before', joined after' after, hR, ?_, ?_, ?_, ?_⟩
  · simp only [objectAt?, Value.members?, Option.bind_some, ht, hdata]
  · simp only [objectAt?, Value.members?, Option.bind_some, ht', hdata']
  · rw [compile_eq_compileAll, hall m fun _ _ => rfl, htypography ht, hall' t fun _ _ => rfl, htokens hdata]
    simp only [joined_assoc]
  · rw [compile_eq_compileAll, hall n hothers, htypography ht', hall' t' hothers', htokens hdata']
    simp only [joined_assoc]

/-- Documents that differ in one section with a scale compile to its tokens between the same others. -/
theorem sameAround (schema : ScaleSchema) {part : ScalePart} {R : Members → Members → Prop} {doc doc' : Value}
    (h : DifferUnder R part.path doc doc') : SameAround rounding schema (part.tokens schema) R part.path doc doc' := by
  cases part with
  | spacing => exact sameAround_spacing schema h
  | text =>
    have hs : textSection schema ∈ [textSection schema, headingsSection schema] := by simp
    exact sameAround_typography hs (ScalePart.textTokens_eq schema) h
  | headings =>
    have hs : headingsSection schema ∈ [textSection schema, headingsSection schema] := by simp
    exact sameAround_typography hs (ScalePart.headingTokens_eq schema) h

/-- An entry among the sizes of a section with a scale reaches the blocks of the positions of its name and no other
token. A size that is overridden is the value of the override whatever the scale is, and a section of which all
positions are overridden compiles alike with all scales. -/
theorem overrides_local (rounding : Color.Rounding) (schema : ScaleSchema) (part : ScalePart) :
    (∀ (name : String) (doc doc' : Value) (table table' : Table),
      DifferUnder (DifferInEntry name) part.path doc doc' → compile rounding schema doc = .ok table →
      compile rounding schema doc' = .ok table' →
      ∃ data data' before after size size',
        objectAt? part.path doc = some data ∧ objectAt? part.path doc' = some data' ∧
        part.Laid schema data table before after size ∧ part.Laid schema data' table' before after size' ∧
        (∀ p ∈ part.positions schema, p.name ≠ name →
          part.block (inner data "sizes") (size p.name) p = part.block (inner data' "sizes") (size' p.name) p) ∧
        ((∀ p ∈ part.positions schema, p.name ≠ name) → table = table')) ∧
    (∀ (doc : Value) (data : Members) (table : Table), objectAt? part.path doc = some data →
      compile rounding schema doc = .ok table →
      ∃ before after size, part.Laid schema data table before after size ∧
        ∀ p ∈ part.positions schema, ∀ v, Overridden (inner data "sizes") p.name v →
          (∀ s, v = .text s → readFloat? s = none → size p.name = s) ∧
          ((∀ s, v = .text s → readFloat? s ≠ none) → size p.name = numberText v ++ "px")) ∧
    ∀ (doc doc' : Value) (data : Members), DifferUnder DifferInScale part.path doc doc' →
      objectAt? part.path doc = some data →
      (∀ p ∈ part.positions schema, ∃ v, Overridden (inner data "sizes") p.name v) →
      compile rounding schema doc = compile rounding schema doc' := by
  refine ⟨?entry, ?verbatim, ?scale⟩
  case entry =>
    intro name doc doc' table table' hdiffer h h'
    obtain ⟨data, data', x, y, hR, hdata, hdata', heq, heq'⟩ := sameAround schema hdiffer
    obtain ⟨before, after, scale, values, hbefore, hafter, hscale, hvalues, hlaid⟩ :=
      ScalePart.laid_of_joined (heq.symm.trans h)
    obtain ⟨before', after', scale', values', hbefore', hafter', hscale', hvalues', hlaid'⟩ :=
      ScalePart.laid_of_joined (heq'.symm.trans h')
    -- What lies around the section does not depend on it, and neither does the scale on the entries.
    obtain rfl : before = before' := Except.ok.inj (hbefore.symm.trans hbefore')
    obtain rfl : after = after' := Except.ok.inj (hafter.symm.trans hafter')
    obtain rfl : scale = scale' :=
      Except.ok.inj (hscale.symm.trans ((scaleOf_of_differInEntry hR _ _).trans hscale'))
    have hblocks : ∀ p ∈ part.positions schema, p.name ≠ name →
        part.block (inner data "sizes") (pixels (values.get p.name)) p =
          part.block (inner data' "sizes") (pixels (values'.get p.name)) p :=
      fun p _ hp => ScalePart.block_congr hR hvalues hvalues' hp
    refine ⟨data, data', before, after, _, _, hdata, hdata', hlaid, hlaid', hblocks, fun hnone => ?_⟩
    rw [hlaid.table, hlaid'.table]
    exact congrArg (fun l => before ++ l ++ after) (List.flatMap_congr fun p hp => hblocks p hp (hnone p hp))
  case verbatim =>
    intro doc data table hdata h
    obtain ⟨a, b, x, y, ⟨rfl, rfl⟩, -, -, heq, -⟩ := sameAround schema (differUnder_refl hdata)
    obtain ⟨before, after, scale, values, -, -, -, hvalues, hlaid⟩ := ScalePart.laid_of_joined (heq.symm.trans h)
    refine ⟨before, after, _, hlaid, fun p hp v hv => ?_⟩
    have hvalue : values.get p.name = v := Scale.get_sizes_of_override hvalues hp (override?_eq_some.mpr hv)
    simp only [hvalue]
    exact pixels_eq v
  case scale =>
    intro doc doc' data hdiffer hdata hall
    obtain ⟨a, a', x, y, hR, ha, ha', heq, heq'⟩ := sameAround schema hdiffer
    obtain rfl : data = a := Option.some.inj (hdata.symm.trans ha)
    rw [heq, heq', ScalePart.tokens_of_overridden hR fun p hp => ?_]
    obtain ⟨v, hv⟩ := hall p hp
    rw [override?_eq_some.mpr hv]
    rfl

/-- Two headings, of which one has a variable of its own. -/
def headingSchema : ScaleSchema :=
  ⟨[], [], [⟨"h1", 1.0, some "display"⟩, ⟨"h2", 0.0, none⟩]⟩

/-- A document with headings, of which the second is overridden by a text. -/
def headingDocument (parameters first : Members) : Value :=
  .object [("typography", .object [("headings", .object (parameters ++
    [("sizes", .object [("h1", .object first), ("h2", .object [("enabled", .bool true), ("value", .text "2rem")])])]))])]

/-- The first heading is overridden by a number. -/
def plainHeading : Members :=
  [("enabled", .bool true), ("value", .int 40)]

/-- The same with another number and a weight. -/
def boldHeading : Members :=
  [("enabled", .bool true), ("value", .int 48), ("weight", .int 700)]

def plainTable : Table :=
  [⟨"--display", "Typography", "40px"⟩, ⟨"--heading-h2", "Typography", "2rem"⟩]

def boldTable : Table :=
  [⟨"--display", "Typography", "48px"⟩, ⟨"--display-weight", "Typography", "700"⟩, ⟨"--heading-h2", "Typography", "2rem"⟩]

theorem get_cons_congr {key k : String} (hk : k ≠ key) {v w : Value} {rest : Members} :
    Members.get ((key, v) :: rest) k = Members.get ((key, w) :: rest) k := by
  rw [Members.get_cons_ne hk, Members.get_cons_ne hk]

theorem overrides_local_headings :
    (compile .oneByOne headingSchema (headingDocument [] plainHeading) = .ok plainTable ∧
      compile .oneByOne headingSchema (headingDocument [] boldHeading) = .ok boldTable ∧
      DifferUnder (DifferInEntry "h1") ScalePart.headings.path (headingDocument [] plainHeading)
        (headingDocument [] boldHeading) ∧
      ∃ data data' before after size size',
        ScalePart.headings.Laid headingSchema data plainTable before after size ∧
        ScalePart.headings.Laid headingSchema data' boldTable before after size' ∧
        ∀ p ∈ headingSchema.headings, p.name ≠ "h1" →
          ScalePart.headings.block (inner data "sizes") (size p.name) p =
            ScalePart.headings.block (inner data' "sizes") (size' p.name) p) ∧
    (∃ data before after size, objectAt? ScalePart.headings.path (headingDocument [] plainHeading) = some data ∧
      ScalePart.headings.Laid headingSchema data plainTable before after size ∧
      Overridden (inner data "sizes") "h1" (.int 40) ∧ size "h1" = "40px" ∧ size "h2" = "2rem") ∧
    DifferUnder DifferInScale ScalePart.headings.path (headingDocument [] plainHeading)
      (headingDocument [("baseSize", .int 10), ("scale", .int 0)] plainHeading) ∧
    compile .oneByOne headingSchema (headingDocument [] plainHeading) =
      compile .oneByOne headingSchema (headingDocument [("baseSize", .int 10), ("scale", .int 0)] plainHeading) := by
  obtain ⟨hentry, hverbatim, hscale⟩ := overrides_local .oneByOne headingSchema .headings
  have hplain : compile .oneByOne headingSchema (headingDocument [] plainHeading) = .ok plainTable :=
    except_eq_ok_of_toOption (by decide +kernel)
  have hbold : compile .oneByOne headingSchema (headingDocument [] boldHeading) = .ok boldTable :=
    except_eq_ok_of_toOption (by decide +kernel)
  have hdiffer : DifferUnder (DifferInEntry "h1") ScalePart.headings.path (headingDocument [] plainHeading)
      (headingDocument [] boldHeading) := by
    refine .under (fun k hk => get_cons_congr hk) (.under (fun k hk => get_cons_congr hk) (.here ⟨?_, ?_⟩))
    · exact fun k hk => get_cons_congr hk
    · exact fun k hk => @get_cons_congr _ _ hk (.object plainHeading) (.object boldHeading) [_]
  have hdiffer' : DifferUnder DifferInScale ScalePart.headings.path (headingDocument [] plainHeading)
      (headingDocument [("baseSize", .int 10), ("scale", .int 0)] plainHeading) := by
    refine .under (fun k hk => get_cons_congr hk) (.under (fun k hk => get_cons_congr hk) (.here ⟨fun k hk => ?_, ?_⟩))
    · simp only [parameterKeys, List.mem_cons, List.not_mem_nil, or_false, not_or] at hk
      show Members.get [("sizes", _)] k = Members.get [("baseSize", .int 10), ("scale", .int 0), ("sizes", _)] k
      rw [Members.get_cons_ne hk.1, Members.get_cons_ne hk.2]
    · simp only [parameterKeys, List.forall_mem_cons]
      exact ⟨⟨.absent, .int (by decide +kernel)⟩, ⟨.absent, .int (by decide +kernel)⟩, List.forall_mem_nil _⟩
  obtain ⟨data, data', before, after, size, size', -, -, hlaid, hlaid', hblocks, -⟩ :=
    hentry "h1" _ _ _ _ hdiffer hplain hbold
  obtain ⟨before', after', sizeOf, hlaidOf, hsize⟩ := hverbatim (headingDocument [] plainHeading) _ _ rfl hplain
  have hfirst : Overridden [("h1", .object plainHeading), ("h2", .object [("enabled", .bool true), ("value", .text "2rem")])]
      "h1" (.int 40) := ⟨plainHeading, rfl, rfl, rfl, rfl⟩
  have hsecond : Overridden [("h1", .object plainHeading), ("h2", .object [("enabled", .bool true), ("value", .text "2rem")])]
      "h2" (.text "2rem") := ⟨_, rfl, rfl, rfl, rfl⟩
  refine ⟨⟨hplain, hbold, hdiffer, data, data', before, after, size, size', hlaid, hlaid', hblocks⟩,
    ⟨_, before', after', sizeOf, rfl, hlaidOf, hfirst, ?_, ?_⟩, hdiffer', hscale _ _ _ hdiffer' rfl ?_⟩
  · exact (hsize ⟨"h1", 1.0, some "display"⟩ List.mem_cons_self _ hfirst).2 fun s hs _ => by cases hs
  · have hread : readFloat? "2rem" = none := Option.not_isSome_iff_eq_none.mp (by decide +kernel)
    exact (hsize ⟨"h2", 0.0, none⟩ (List.mem_cons_of_mem _ List.mem_cons_self) _ hsecond).1 _ rfl hread
  · simp only [ScalePart.positions, headingSchema, List.forall_mem_cons]
    exact ⟨⟨_, hfirst⟩, ⟨_, hsecond⟩, List.forall_mem_nil _⟩

end TokenDocument
end DesignKit
