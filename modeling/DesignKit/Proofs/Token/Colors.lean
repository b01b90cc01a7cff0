import DesignKit.Proofs.Token.Edits
import DesignKit.Proofs.Token.Names

/-! # The tokens of colors

What the colors of a document become, given as rules: the entries of the color sections are gone through in order;
one that has a concrete value gives the token of its name, and if the text of the value is a hex color there follows
a token for each active hue in order. The shades are computed of the color and not of its spelling. -/

namespace DesignKit.TokenDocument
open Number

/-! ### Rules -/

/-- The number that a value gives. -/
inductive Gives : Value → Float → Prop
  | int {n : Int} {x : Float} (h : ofInt? n = some x) : Gives (.int n) x
  | float (x : Float) : Gives (.float x) x
  | text {s : String} {x : Float} (h : readFloat? s = some x) : Gives (.text s) x

/-- The value of a color entry: a text itself, or the `color` or else the `value` of an object that is not switched
off. A false value is none. -/
inductive Concrete : Value → Value → Prop
  | text {s : String} (h : s ≠ "") : Concrete (.text s) (.text s)
  | color {m : Members} (hon : m.get "enabled" ≠ .bool false) (h : (m.get "color").truthy = true) :
    Concrete (.object m) (m.get "color")
  | value {m : Members} (hon : m.get "enabled" ≠ .bool false) (hcolor : (m.get "color").truthy = false)
    (h : (m.get "value").truthy = true) : Concrete (.object m) (m.get "value")

/-- The tokens of the shades of a color: one for each hue that is active, in order. -/
inductive ShadeTokens (rounding : Color.Rounding) (name : String) (c : Rgb) : Members → List Token → Prop
  | nil : ShadeTokens rounding name c [] []
  | idle {hue : String} {entry : Value} {rest : Members} {tokens : List Token} (h : (lightnessOf entry).isNull = true)
    (hrest : ShadeTokens rounding name c rest tokens) : ShadeTokens rounding name c ((hue, entry) :: rest) tokens
  | active {hue : String} {entry : Value} {rest : Members} {tokens : List Token} {x : Float} {shade : String}
    (hx : Gives (lightnessOf entry) x) (hshade : Color.shadeOf rounding c (.float x) = .ok shade)
    (hrest : ShadeTokens rounding name c rest tokens) :
    ShadeTokens rounding name c ((hue, entry) :: rest)
      (⟨"--" ++ name ++ "-" ++ hue, Category.colors.name, shade⟩ :: tokens)

/-- The tokens of a value under a name: its own, and those of its shades if it spells a color. -/
inductive ColorBlock (rounding : Color.Rounding) (hues : Members) (name : String) (v : Value) : List Token → Prop
  | plain (h : ∀ color, ¬Color.Spells color v.print.toList) :
    ColorBlock rounding hues name v [⟨"--" ++ name, Category.colors.name, v.print⟩]
  | shaded {color : List Nat} {c : Rgb} {tokens : List Token} (h : Color.Spells color v.print.toList)
    (hc : Color.channels? color = some c) (hshades : ShadeTokens rounding name c hues tokens) :
    ColorBlock rounding hues name v (⟨"--" ++ name, Category.colors.name, v.print⟩ :: tokens)

/-- The tokens of color entries, one after the other. -/
inductive ColorTokens (rounding : Color.Rounding) (hues : Members) : Members → List Token → Prop
  | nil : ColorTokens rounding hues [] []
  | skip {name : String} {entry : Value} {rest : Members} {tokens : List Token} (h : ∀ v, ¬Concrete entry v)
    (hrest : ColorTokens rounding hues rest tokens) : ColorTokens rounding hues ((name, entry) :: rest) tokens
  | color {name : String} {entry v : Value} {block : List Token} {rest : Members} {tokens : List Token}
    (h : Concrete entry v) (hblock : ColorBlock rounding hues name v block)
    (hrest : ColorTokens rounding hues rest tokens) :
    ColorTokens rounding hues ((name, entry) :: rest) (block ++ tokens)

/-- The color entries of a document's color section: those of its palettes, in order. -/
def colorEntries (color : Members) : Members :=
  (((sectionValues? (color.get "sections")).getD []).filterMap Value.members?).flatMap (inner · "colors")

variable {rounding : Color.Rounding}

theorem ColorTokens.append {hues entries entries' : Members} {tokens tokens' : List Token}
    (h : ColorTokens rounding hues entries tokens) (h' : ColorTokens rounding hues entries' tokens') :
    ColorTokens rounding hues (entries ++ entries') (tokens ++ tokens') := by
  induction h with
  | nil => exact h'
  | skip hskip _ ih => exact .skip hskip ih
  | color hcolor hblock _ ih =>
    rw [List.append_assoc]
    exact .color hcolor hblock ih

/-! ### Hues and values -/

theorem gives_of_number {v : Value} (hnull : v.isNull = false) {place : String} {default x : Float}
    (h : number v place default = .ok x) : Gives v x := by
  unfold number at h
  split at h
  case h_1 => cases hnull
  case h_2 n =>
    unfold ofInt at h
    split at h
    · rename_i hn
      cases h
      exact .int hn
    · cases h
  case h_3 =>
    cases h
    exact .float x
  case h_4 s =>
    split at h
    · rename_i hs
      cases h
      exact .text hs
    · cases h
  case h_5 => cases h

theorem isNull_of_lightness? {name : String} {entry : Value} (h : lightness? name entry = .ok none) :
    (lightnessOf entry).isNull = true := by
  obtain ⟨place, heq⟩ := lightness?_eq name entry
  rw [heq] at h
  split at h
  case isTrue hnull => exact hnull
  case isFalse => cases hx : number (lightnessOf entry) place 0.0 <;> rw [hx] at h <;> cases h

theorem gives_of_lightness? {name : String} {entry : Value} {x : Float} (h : lightness? name entry = .ok (some x)) :
    Gives (lightnessOf entry) x := by
  obtain ⟨place, heq⟩ := lightness?_eq name entry
  rw [heq] at h
  split at h
  case isTrue => cases h
  case isFalse hnull =>
    cases hx : number (lightnessOf entry) place 0.0 with
    | error fault =>
      rw [hx] at h
      cases h
    | ok y =>
      rw [hx] at h
      cases h
      exact gives_of_number (Bool.eq_false_iff.mpr hnull) hx

theorem enabled_iff {m : Members} : enabled m = true ↔ m.get "enabled" ≠ .bool false := by
  unfold enabled
  split
  case h_1 b hb => cases b <;> simp [hb]
  case h_2 hne => exact ⟨fun _ => hne false, fun _ => rfl⟩

theorem orElse_cases (v w : Value) :
    (v.truthy = true ∧ v.orElse w = v) ∨ (v.truthy = false ∧ v.orElse w = w) := by
  unfold Value.orElse
  cases v.truthy with
  | true => exact .inl ⟨rfl, rfl⟩
  | false => exact .inr ⟨rfl, rfl⟩

theorem colorOf?_eq_some {entry v : Value} : colorOf? entry = some v ↔ Concrete entry v := by
  constructor
  · intro h
    unfold colorOf? at h
    split at h
    case h_1 s =>
      split at h
      · cases h
      · rename_i hs
        cases h
        exact .text (by simpa using hs)
    case h_2 m =>
      simp only at h
      split at h
      case isFalse => cases h
      case isTrue hon =>
        obtain ⟨hon, htruthy⟩ := Bool.and_eq_true_iff.mp hon
        have hvalue := Option.some.inj h
        rcases orElse_cases (Members.get m "color") (Members.get m "value") with ⟨hcolor, heq⟩ | ⟨hcolor, heq⟩
        · rw [heq] at hvalue
          exact hvalue ▸ .color (enabled_iff.mp hon) hcolor
        · rw [heq] at hvalue htruthy
          exact hvalue ▸ .value (enabled_iff.mp hon) hcolor htruthy
    case h_3 => cases h
  · rintro (hs | ⟨hon, hcolor⟩ | ⟨hon, hcolor, hvalue⟩)
    · simp [colorOf?, hs]
    · simp [colorOf?, Value.orElse, enabled_iff.mpr hon, hcolor]
    · simp [colorOf?, Value.orElse, enabled_iff.mpr hon, hcolor, hvalue]

/-! ### Shades -/

theorem shadeTokens_of_shades {name : String} {c : Rgb} {hues found : Members} (hfound : activeHues hues = .ok found)
    {shades : List (String × String)}
    (h : (found.mapM fun (hue, lightness) => (hue, ·) <$> Color.shadeOf rounding c lightness) = .ok shades) :
    ShadeTokens rounding name c hues
      (shades.map fun (hue, shade) => ⟨"--" ++ name ++ "-" ++ hue, Category.colors.name, shade⟩) := by
  induction hues generalizing found shades with
  | nil =>
    cases hfound
    cases h
    exact .nil
  | cons hue rest ih =>
    obtain ⟨hue, entry⟩ := hue
    obtain ⟨lightness, hlightness, hfound⟩ := except_bind_eq_ok.mp hfound
    obtain ⟨others, hothers, hfound⟩ := except_bind_eq_ok.mp hfound
    cases lightness with
    | none =>
      cases hfound
      exact .idle (isNull_of_lightness? hlightness) (ih hothers h)
    | some x =>
      cases hfound
      rw [List.mapM_cons] at h
      obtain ⟨first, hfirst, h⟩ := except_bind_eq_ok.mp h
      obtain ⟨rest', hrest, h⟩ := except_bind_eq_ok.mp h
      cases h
      cases hshade : Color.shadeOf rounding c (.float x) with
      | error fault =>
        simp only [hshade] at hfirst
        cases hfirst
      | ok shade =>
        simp only [hshade] at hfirst
        cases hfirst
        exact .active (gives_of_lightness? hlightness) hshade (ih hothers hrest)

theorem colorBlock_of_colorTokens {hues found : Members} (hfound : activeHues hues = .ok found) {name : String}
    {v : Value} {tokens : List Token} (h : colorTokens rounding found name v = .ok tokens) :
    ColorBlock rounding hues name v tokens := by
  obtain ⟨shades, hshades, rfl⟩ := colorTokens_eq h
  rw [Color.shades_eq, Color.rgb?_eq] at hshades
  cases hdigits : Color.digits? v.print with
  | none =>
    rw [hdigits] at hshades
    cases hshades
    refine .plain fun color hspells => ?_
    rw [Color.digits?_eq_some.mpr hspells] at hdigits
    cases hdigits
  | some color =>
    have hspells := Color.digits?_eq_some.mp hdigits
    obtain ⟨c, hc⟩ := Color.exists_channels hspells
    rw [hdigits, Option.bind_some, hc] at hshades
    exact .shaded hspells hc (shadeTokens_of_shades hfound hshades)

/-! ### Sections -/

section
variable {hues found : Members} (hfound : activeHues hues = .ok found)
include hfound

theorem colorTokens_of_paletteTokens {colors : Members} {tokens : List Token}
    (h : paletteTokens rounding found colors = .ok tokens) : ColorTokens rounding hues colors tokens := by
  induction colors generalizing tokens with
  | nil =>
    cases h
    exact .nil
  | cons entry rest ih =>
    obtain ⟨name, entry⟩ := entry
    unfold paletteTokens at h
    cases hcolor : colorOf? entry with
    | none =>
      rw [hcolor] at h
      obtain ⟨first, hfirst, h⟩ := except_bind_eq_ok.mp h
      obtain ⟨others, hothers, h⟩ := except_bind_eq_ok.mp h
      cases hfirst
      cases h
      refine .skip (fun v hv => ?_) (ih hothers)
      rw [colorOf?_eq_some.mpr hv] at hcolor
      cases hcolor
    | some v =>
      rw [hcolor] at h
      obtain ⟨block, hblock, h⟩ := except_bind_eq_ok.mp h
      obtain ⟨others, hothers, h⟩ := except_bind_eq_ok.mp h
      cases h
      exact .color (colorOf?_eq_some.mp hcolor) (colorBlock_of_colorTokens hfound hblock) (ih hothers)

theorem colorTokens_of_sectionTokens {palettes : List Members} {tokens : List Token}
    (h : sectionTokens rounding found palettes = .ok tokens) :
    ColorTokens rounding hues (palettes.flatMap (inner · "colors")) tokens := by
  induction palettes generalizing tokens with
  | nil =>
    cases h
    exact .nil
  | cons palette rest ih =>
    obtain ⟨colors, hcolors, h⟩ := except_bind_eq_ok.mp h
    obtain ⟨first, hfirst, h⟩ := except_bind_eq_ok.mp h
    obtain ⟨others, hothers, h⟩ := except_bind_eq_ok.mp h
    cases h
    rw [section?_eq_ok hcolors] at hfirst
    exact (colorTokens_of_paletteTokens hfound hfirst).append (ih hothers)

end

/-- The tokens of the color section follow the rules. -/
theorem colorTokens_of_allColorTokens {doc : Members} {tokens : List Token}
    (h : allColorTokens rounding doc = .ok tokens) :
    ColorTokens rounding (inner (inner doc "color") "hues") (colorEntries (inner doc "color")) tokens := by
  obtain ⟨found, hfound, h⟩ := except_bind_eq_ok.mp h
  have hcolor : inner doc "color" = found.getD [] := by rw [inner, section?_eq_ok hfound]
  cases found with
  | none =>
    cases h
    rw [hcolor]
    exact .nil
  | some color =>
    obtain ⟨hues, hhues, h⟩ := except_bind_eq_ok.mp h
    obtain ⟨active, hactive, h⟩ := except_bind_eq_ok.mp h
    obtain ⟨palettes, hpalettes, h⟩ := except_bind_eq_ok.mp h
    rw [section?_eq_ok hhues] at hactive
    have hentries : colorEntries color = palettes.flatMap (inner · "colors") := by
      rw [colorSections_eq] at hpalettes
      rw [colorEntries]
      cases hvalues : sectionValues? (color.get "sections") with
      | none =>
        rw [hvalues] at hpalettes
        cases hpalettes
      | some values =>
        rw [hvalues] at hpalettes
        cases hpalettes
        rfl
    rw [hcolor, Option.getD_some, hentries]
    exact colorTokens_of_sectionTokens hactive h

/-! ### The rules determine the tokens -/

theorem Gives.unique {v : Value} {x y : Float} (hx : Gives v x) (hy : Gives v y) : x = y := by
  cases hx with
  | int hx =>
    cases hy with
    | int hy => exact Option.some.inj (hx.symm.trans hy)
  | float => cases hy with
    | float => rfl
  | text hx =>
    cases hy with
    | text hy => exact Option.some.inj (hx.symm.trans hy)

theorem Gives.isNull {v : Value} {x : Float} (h : Gives v x) : v.isNull = false := by
  cases h <;> rfl

theorem ShadeTokens.unique {name : String} {c : Rgb} {hues : Members} {tokens tokens' : List Token}
    (h : ShadeTokens rounding name c hues tokens) (h' : ShadeTokens rounding name c hues tokens') :
    tokens = tokens' := by
  induction h generalizing tokens' with
  | nil =>
    cases h'
    rfl
  | idle hidle _ ih =>
    cases h' with
    | idle _ hrest => exact ih hrest
    | active hx => exact absurd hidle (by simp [hx.isNull])
  | active hx hshade _ ih =>
    cases h' with
    | idle hidle => exact absurd hidle (by simp [hx.isNull])
    | active hx' hshade' hrest =>
      cases hx.unique hx'
      cases hshade.symm.trans hshade'
      rw [ih hrest]

theorem ColorBlock.unique {hues : Members} {name : String} {v : Value} {tokens tokens' : List Token}
    (h : ColorBlock rounding hues name v tokens) (h' : ColorBlock rounding hues name v tokens') : tokens = tokens' := by
  cases h with
  | plain hnone =>
    cases h' with
    | plain => rfl
    | shaded hspells => exact absurd hspells (hnone _)
  | shaded hspells hc hshades =>
    cases h' with
    | plain hnone => exact absurd hspells (hnone _)
    | shaded hspells' hc' hshades' =>
      have hcolor := (Color.digits?_eq_some.mpr hspells).symm.trans (Color.digits?_eq_some.mpr hspells')
      cases hcolor
      cases hc.symm.trans hc'
      rw [hshades.unique hshades']

theorem ColorTokens.unique {hues entries : Members} {tokens tokens' : List Token}
    (h : ColorTokens rounding hues entries tokens) (h' : ColorTokens rounding hues entries tokens') :
    tokens = tokens' := by
  induction h generalizing tokens' with
  | nil =>
    cases h'
    rfl
  | skip hskip _ ih =>
    cases h' with
    | skip _ hrest => exact ih hrest
    | color hv => exact absurd hv (hskip _)
  | color hv hblock _ ih =>
    cases h' with
    | skip hskip => exact absurd hv (hskip _)
    | color hv' hblock' hrest =>
      cases (colorOf?_eq_some.mpr hv).symm.trans (colorOf?_eq_some.mpr hv')
      rw [hblock.unique hblock', ih hrest]

/-- Two values that spell one color have the same shades under a name. -/
theorem ColorBlock.shades_eq {hues : Members} {name : String} {v v' : Value} {color : List Nat}
    (hv : Color.Spells color v.print.toList) (hv' : Color.Spells color v'.print.toList) {token token' : Token}
    {shades shades' : List Token} (h : ColorBlock rounding hues name v (token :: shades))
    (h' : ColorBlock rounding hues name v' (token' :: shades')) : shades = shades' := by
  cases h with
  | plain hnone => exact absurd hv (hnone _)
  | shaded hspells hc hshades =>
    cases h' with
    | plain hnone => exact absurd hv' (hnone _)
    | shaded hspells' hc' hshades' =>
      cases (Color.digits?_eq_some.mpr hspells).symm.trans (Color.digits?_eq_some.mpr hv)
      cases (Color.digits?_eq_some.mpr hspells').symm.trans (Color.digits?_eq_some.mpr hv')
      cases hc.symm.trans hc'
      exact hshades.unique hshades'

/-! ### The other sections -/

theorem isPlain_of_category (category : Category) (h : category ≠ .colors) {token : Token}
    (ht : token.category = category.name) : isPlain token = true := by
  rw [isPlain, ht, bne_iff_ne]
  revert h
  cases category <;> decide

theorem isPlain_scaleTokens {data : Members} {place : String} {default : Scale} {positions : List ScalePosition}
    {start : String} {category : Category} (hcategory : category ≠ .colors) {digits : Int} {tokens : List Token}
    (h : scaleTokens data place default positions start category digits = .ok tokens) :
    ∀ token ∈ tokens, isPlain token = true := by
  obtain ⟨scale, -, h⟩ := except_bind_eq_ok.mp h
  obtain ⟨overrides, -, h⟩ := except_bind_eq_ok.mp h
  obtain ⟨values, -, h⟩ := except_bind_eq_ok.mp h
  cases h
  intro token ht
  obtain ⟨p, -, rfl⟩ := List.mem_map.mp ht
  exact isPlain_of_category category hcategory rfl

theorem isPlain_spacingTokens {schema : ScaleSchema} {doc : Members} {tokens : List Token}
    (h : spacingTokens schema doc = .ok tokens) : ∀ token ∈ tokens, isPlain token = true :=
  of_section (P := (∀ token ∈ ·, isPlain token = true)) h rfl nofun fun _ => isPlain_scaleTokens (by decide)

theorem isPlain_extraTokens (key : String) (entry : Value) : ∀ token ∈ extraTokens key entry, isPlain token = true := by
  unfold extraTokens
  cases entry.members? with
  | none => exact nofun
  | some m =>
    intro token ht
    obtain ⟨⟨member, suffix, unit⟩, -, hextra⟩ := List.mem_filterMap.mp ht
    simp only at hextra
    split at hextra
    · cases hextra
    · cases hextra
      exact isPlain_of_category .typography (by decide) rfl

theorem isPlain_headingTokens {schema : ScaleSchema} {typography : Members} {tokens : List Token}
    (h : headingTokens schema typography = .ok tokens) : ∀ token ∈ tokens, isPlain token = true := by
  refine of_section (P := (∀ token ∈ ·, isPlain token = true)) h rfl nofun fun data h => ?_
  obtain ⟨scale, -, h⟩ := except_bind_eq_ok.mp h
  obtain ⟨overrides, -, h⟩ := except_bind_eq_ok.mp h
  obtain ⟨values, -, h⟩ := except_bind_eq_ok.mp h
  cases h
  intro token ht
  obtain ⟨p, -, ht⟩ := List.mem_flatMap.mp ht
  rcases List.mem_cons.mp ht with rfl | ht
  · exact isPlain_of_category .typography (by decide) rfl
  · exact isPlain_extraTokens _ _ token ht

theorem isPlain_typographyTokens {schema : ScaleSchema} {doc : Members} {tokens : List Token}
    (h : typographyTokens schema doc = .ok tokens) : ∀ token ∈ tokens, isPlain token = true := by
  obtain ⟨found, -, h⟩ := except_bind_eq_ok.mp h
  obtain ⟨text, htext, h⟩ := except_bind_eq_ok.mp h
  obtain ⟨headings, hheadings, h⟩ := except_bind_eq_ok.mp h
  cases h
  have htext : ∀ token ∈ text, isPlain token = true :=
    of_section (P := (∀ token ∈ ·, isPlain token = true)) htext rfl nofun fun _ => isPlain_scaleTokens (by decide)
  exact List.forall_mem_append.mpr ⟨htext, isPlain_headingTokens hheadings⟩

theorem category_sizeToken? {start : String} {category : Category} {name : String} {entry : Value} {token : Token}
    (h : sizeToken? start category name entry = some token) : token.category = category.name := by
  unfold sizeToken? at h
  split at h
  · split at h
    · cases h
    · cases h
      rfl
  · cases h

theorem category_shadowToken? {name : String} {entry : Value} {token : Token} (h : shadowToken? name entry = some token) :
    token.category = Category.shadows.name := by
  unfold shadowToken? at h
  split at h
  · split at h
    · obtain ⟨text, -, rfl⟩ := Option.map_eq_some_iff.mp h
      rfl
    · cases h
  · cases h

theorem isPlain_flatTokens {doc : Members} {key start : String} {category : Category} (hcategory : category ≠ .colors)
    {tokens : List Token} (h : flatTokens doc key start category = .ok tokens) :
    ∀ token ∈ tokens, isPlain token = true := by
  rw [flatTokens_eq h]
  intro token ht
  obtain ⟨⟨name, entry⟩, -, hentry⟩ := List.mem_filterMap.mp ht
  exact isPlain_of_category category hcategory (category_sizeToken? hentry)

theorem isPlain_shadowTokens {doc : Members} {tokens : List Token} (h : shadowTokens doc = .ok tokens) :
    ∀ token ∈ tokens, isPlain token = true := by
  rw [shadowTokens_eq h]
  intro token ht
  obtain ⟨⟨name, entry⟩, -, hentry⟩ := List.mem_filterMap.mp ht
  exact isPlain_of_category .shadows (by decide) (category_shadowToken? hentry)

/-! ### Documents -/

/-- The colors of a table are those of the color section. -/
theorem allColorTokens_of_compileMembers {schema : ScaleSchema} {doc : Members} {table : Table}
    (h : compileMembers rounding schema doc = .ok table) :
    allColorTokens rounding doc = .ok (table.filter fun token => !isPlain token) := by
  obtain ⟨spacing, hspacing, h⟩ := except_bind_eq_ok.mp h
  obtain ⟨typography, htypography, h⟩ := except_bind_eq_ok.mp h
  obtain ⟨colors, hcolors, h⟩ := except_bind_eq_ok.mp h
  obtain ⟨borders, hborders, h⟩ := except_bind_eq_ok.mp h
  obtain ⟨shadows, hshadows, h⟩ := except_bind_eq_ok.mp h
  obtain ⟨radius, hradius, h⟩ := except_bind_eq_ok.mp h
  cases h
  have hnone : ∀ {tokens : List Token}, (∀ token ∈ tokens, isPlain token = true) →
      tokens.filter (fun token => !isPlain token) = [] := by
    intro tokens hplain
    refine List.filter_eq_nil_iff.mpr fun token ht => ?_
    simp [hplain token ht]
  have hall : colors.filter (fun token => !isPlain token) = colors := by
    refine List.filter_eq_self.mpr fun token ht => ?_
    simp [isPlain, category_allColorTokens hcolors token ht]
  simp only [List.filter_append, hnone (isPlain_spacingTokens hspacing), hnone (isPlain_typographyTokens htypography),
    hall, hnone (isPlain_flatTokens (by decide) hborders), hnone (isPlain_shadowTokens hshadows),
    hnone (isPlain_flatTokens (by decide) hradius), List.nil_append, List.append_nil]
  exact hcolors

/-- The colors of a table are those that the rules give for the palettes of the document, and no others. Values
that spell one color have the same shades. -/
theorem colors_of_compile (rounding : Color.Rounding) (schema : ScaleSchema) :
    (∀ (doc : Members) (table : Table), compile rounding schema (.object doc) = .ok table → ∀ tokens : List Token,
      ColorTokens rounding (inner (inner doc "color") "hues") (colorEntries (inner doc "color")) tokens ↔
        tokens = table.filter fun token => !isPlain token) ∧
    ∀ (color : List Nat) (v v' : Value), Color.Spells color v.print.toList → Color.Spells color v'.print.toList →
      (∀ hues : Members, Color.shades rounding v.print hues = Color.shades rounding v'.print hues) ∧
      ∀ (hues : Members) (name : String) (token token' : Token) (shades shades' : List Token),
        ColorBlock rounding hues name v (token :: shades) → ColorBlock rounding hues name v' (token' :: shades') →
          shades = shades' := by
  refine ⟨fun doc table h tokens => ?_, fun color v v' hv hv' => ⟨?_, ?_⟩⟩
  · have hcolors := colorTokens_of_allColorTokens (allColorTokens_of_compileMembers h)
    constructor
    · exact fun htokens => htokens.unique hcolors
    · rintro rfl
      exact hcolors
  · exact Color.shades_of_spells hv hv'
  · exact fun hues name token token' shades shades' => ColorBlock.shades_eq hv hv'

/-- Two hues and one that is switched off and could not be read if it were on. -/
def threeHues : Members :=
  [("light", .object [("value", .int 90)]), ("off", .object [("enabled", .bool false), ("value", .text "many")]),
    ("dark", .text "20")]

/-- Two palettes: a color in two spellings, one that is switched off and a text that is no hex color. -/
def twoPalettes : Members :=
  [("hues", .object threeHues), ("sections", .list [
    .object [("colors", .object [("ink", .text "#aee"),
      ("sky", .object [("enabled", .bool false), ("color", .text "#fff")])])],
    .null,
    .object [("colors", .object [("paper", .object [("color", .text ""), ("value", .text " AAEEEE\n")]),
      ("link", .text "var(--ink)")])]])]

def paletteDocument : Members :=
  [("color", .object twoPalettes), ("radius", .object [("sizes", .object [("sm", .object [("value", .int 4)])])])]

def inkTokens : List Token :=
  [⟨"--ink", "Colors", "#aee"⟩, ⟨"--ink-light", "Colors", "#d4f7f7"⟩, ⟨"--ink-dark", "Colors", "#115555"⟩]

def paperTokens : List Token :=
  [⟨"--paper", "Colors", " AAEEEE\n"⟩, ⟨"--paper-light", "Colors", "#d4f7f7"⟩, ⟨"--paper-dark", "Colors", "#115555"⟩]

def linkToken : Token :=
  ⟨"--link", "Colors", "var(--ink)"⟩

def radiusToken : Token :=
  ⟨"--radius-sm", "Radius", "4px"⟩

theorem colors_of_compile_palettes :
    compile .oneByOne .standard (.object paletteDocument) =
      .ok (inkTokens ++ paperTokens ++ [linkToken, radiusToken]) ∧
    ColorTokens .oneByOne threeHues (colorEntries twoPalettes) (inkTokens ++ paperTokens ++ [linkToken]) ∧
    Color.Spells [10, 10, 14, 14, 14, 14] "#aee".toList ∧ Color.Spells [10, 10, 14, 14, 14, 14] " AAEEEE\n".toList ∧
    Color.shades .oneByOne "#aee" [("light", .int 90)] = Color.shades .oneByOne " AAEEEE\n" [("light", .int 90)] ∧
    ∃ shades shades', ColorBlock .oneByOne threeHues "ink" (.text "#aee") (⟨"--ink", "Colors", "#aee"⟩ :: shades) ∧
      ColorBlock .oneByOne threeHues "ink" (.text " AAEEEE\n") (⟨"--ink", "Colors", " AAEEEE\n"⟩ :: shades') ∧
      shades = shades' ∧ shades.length = 2 := by
  obtain ⟨htokens, hshades⟩ := colors_of_compile .oneByOne .standard
  have htable : compile .oneByOne .standard (.object paletteDocument) =
      .ok (inkTokens ++ paperTokens ++ [linkToken, radiusToken]) := except_eq_ok_of_toOption (by decide +kernel)
  have hshort : Color.Spells [10, 10, 14, 14, 14, 14] "#aee".toList := Color.digits?_eq_some.mp (by decide +kernel)
  have hlong : Color.Spells [10, 10, 14, 14, 14, 14] " AAEEEE\n".toList := Color.digits?_eq_some.mp (by decide +kernel)
  have hblock : ∀ s : String, Color.Spells [10, 10, 14, 14, 14, 14] s.toList →
      ColorBlock .oneByOne threeHues "ink" (.text s) [⟨"--ink", "Colors", s⟩, ⟨"--ink-light", "Colors", "#d4f7f7"⟩,
        ⟨"--ink-dark", "Colors", "#115555"⟩] := by
    intro s hs
    refine .shaded hs rfl (.active (x := 90.0) (.int (by decide +kernel)) ?_ (.idle rfl ?_))
    · exact except_eq_ok_of_toOption (by decide +kernel)
    · exact .active (x := 20.0) (.text (by decide +kernel)) (except_eq_ok_of_toOption (by decide +kernel)) .nil
  obtain ⟨hcommon, hblocks⟩ := hshades _ (.text "#aee") (.text " AAEEEE\n") hshort hlong
  exact ⟨htable, (htokens _ _ htable _).mpr (by decide), hshort, hlong, hcommon _, _, _, hblock _ hshort, hblock _ hlong,
    hblocks _ _ _ _ _ _ (hblock _ hshort) (hblock _ hlong), rfl⟩

end DesignKit.TokenDocument
