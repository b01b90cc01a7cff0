import DesignKit.Proofs.Scale
import DesignKit.Proofs.Strain
import DesignKit.Token.Document

/-! # What arithmetic cannot carry out in a document

A document compiles to a table, or ends in a problem of the document, or strains the arithmetic of doubles: a
parameter may be beyond their range, a scale may have no size at a position, a color no shade at a lightness.
The strains of a document are collected section by section. They are exact: a document that has one does not
compile. -/

namespace DesignKit.TokenDocument
open Number

variable {rounding : Color.Rounding}

/-! ### Sections and numbers -/

/-- The members under a key, none when there is no object. -/
def inner (data : Members) (key : String) : Members :=
  (data.get key).members?.getD []

theorem hasStrains_section? (data : Members) (key place : String) : HasStrains NoStrain (section? data key place) := by
  unfold section?
  split
  · exact .pure
  · exact .pure
  · exact .problem

theorem section?_eq_ok {data : Members} {key place : String} {found : Option Members}
    (h : section? data key place = .ok found) : found = (data.get key).members? := by
  unfold section? at h
  split at h
  case h_1 hv =>
    cases h
    rw [hv]
    rfl
  case h_2 m hv =>
    cases h
    rw [hv]
    rfl
  case h_3 => cases h

/-- What is done with a section if there is one strains on its members. -/
theorem hasStrains_section {α : Type} {data : Members} {key place : String} {S : Members → Fault → Prop}
    {k : Option Members → Except Fault α} (hnone : HasStrains NoStrain (k none))
    (hsome : ∀ m, HasStrains (S m) (k (some m))) :
    HasStrains (fun fault => ∃ m, data.get key = .object m ∧ S m fault) (section? data key place >>= k) := by
  unfold section?
  split
  case h_1 hv => exact hnone.congr fun fault => by simp [hv, NoStrain]
  case h_2 m hv => exact (hsome m).congr fun fault => by simp [hv]
  case h_3 => exact .problem

/-- An integer beyond the range of doubles. -/
inductive TooLarge : Value → Fault → Prop
  | int {n : Int} (h : ofInt? n = none) : TooLarge (.int n) .overflow

theorem TooLarge.not_isNull {v : Value} {fault : Fault} (h : TooLarge v fault) : v.isNull = false := by
  cases h
  rfl

theorem hasStrains_number (v : Value) (place : String) (default : Float) :
    HasStrains (TooLarge v) (number v place default) := by
  unfold number
  split
  case h_2 n =>
    refine (HasStrains.self (ofInt n)).congr fun fault => ?_
    rw [ofInt_eq_error]
    constructor
    · rintro ⟨h, rfl⟩
      exact .int h
    · rintro ⟨h⟩
      exact ⟨h, rfl⟩
  case h_1 => exact .ok nofun
  case h_3 => exact .ok nofun
  case h_4 =>
    split
    · exact .ok nofun
    · exact .problem
  case h_5 => exact .problem

/-! ### Scales -/

/-- The members that give the parameters of a scale. -/
def parameterKeys : List String := ["baseSize", "scale"]

theorem hasStrains_scaleOf (data : Members) (default : Scale) (place : String) :
    HasStrains (fun fault => ∃ key ∈ parameterKeys, TooLarge (data.get key) fault) (scaleOf data default place) := by
  unfold scaleOf
  refine HasStrains.congr ?_ ((hasStrains_number _ _ _).bind fun _ _ => (hasStrains_number _ _ _).bind_left fun _ => .pure)
  simp [parameterKeys]

theorem hasStrains_overridesOf (data : Members) (place : String) : HasStrains NoStrain (overridesOf data place) :=
  (hasStrains_section? data "sizes" place).bind_left fun _ => .pure

/-- Only the positions without an override are computed. -/
theorem hasStrains_sizes (scale : Scale) (overrides : Members) (digits : Int) (positions : List ScalePosition) :
    HasStrains (fun fault => ∃ p ∈ positions, override? overrides p.name = none ∧ scale.Unsized p.position digits fault)
      (scale.sizes overrides digits positions) := by
  unfold Scale.sizes
  refine (HasStrains.mapM (fun p => ?_) positions).bind_left fun _ => .pure
  cases override? overrides p.name with
  | some v => exact HasStrains.ok fun fault => by simp
  | none =>
    refine ((HasStrains.self (scale.sizeAt p.position digits)).bind_left fun _ => .pure).congr fun fault => ?_
    simp [Scale.sizeAt_eq_error]

/-- A section that compiles through a scale: the place and the members, the scale that gives the parameters
that are missing, the positions, and the places after the point that sizes keep. -/
structure ScaleSection where
  place : String
  data : Members
  default : Scale
  positions : List ScalePosition
  digits : Int

/-- The strains of a section that compiles through a scale. -/
inductive ScaleSection.Strains (s : ScaleSection) : Fault → Prop
  /-- A parameter of the scale is too large. -/
  | parameter {key : String} {fault : Fault} (hkey : key ∈ parameterKeys) (h : TooLarge (s.data.get key) fault) :
    Strains s fault
  /-- The scale has no size at a position that is not overridden. -/
  | size {scale : Scale} {overrides : Members} {p : ScalePosition} {fault : Fault}
    (hscale : scaleOf s.data s.default s.place = .ok scale) (hoverrides : overridesOf s.data s.place = .ok overrides)
    (hp : p ∈ s.positions) (hnone : override? overrides p.name = none) (h : scale.Unsized p.position s.digits fault) :
    Strains s fault

theorem ScaleSection.hasStrains {α : Type} (s : ScaleSection) (tokens : Members → Members → α) :
    HasStrains s.Strains (do
      let scale ← scaleOf s.data s.default s.place
      let overrides ← overridesOf s.data s.place
      let values ← scale.sizes overrides s.digits s.positions
      return tokens overrides values) := by
  refine ((hasStrains_scaleOf _ _ _).bind_exists fun scale => (hasStrains_overridesOf _ _).bind_exists fun overrides =>
    (hasStrains_sizes scale overrides s.digits s.positions).bind_left fun _ => .pure).congr fun fault => ?_
  constructor
  · rintro (⟨key, hkey, h⟩ | ⟨scale, hscale, hno | ⟨overrides, hoverrides, p, hp, hnone, h⟩⟩)
    · exact .parameter hkey h
    · exact False.elim hno
    · exact .size hscale hoverrides hp hnone h
  · rintro (⟨hkey, h⟩ | ⟨hscale, hoverrides, hp, hnone, h⟩)
    · exact .inl ⟨_, hkey, h⟩
    · exact .inr ⟨_, hscale, .inr ⟨_, hoverrides, _, hp, hnone, h⟩⟩

namespace ScaleSection

/-- The section of the spacing sizes. -/
def spacing (schema : ScaleSchema) (m : Members) : ScaleSection :=
  ⟨"spacing.", m, ⟨16.0, 1.5⟩, schema.spacing, 0⟩

/-- The section of the text sizes. -/
def text (schema : ScaleSchema) (m : Members) : ScaleSection :=
  ⟨"typography.text.", m, ⟨16.0, 1.125⟩, schema.text, 1⟩

/-- The section of the headings. -/
def headings (schema : ScaleSchema) (m : Members) : ScaleSection :=
  ⟨"typography.headings.", m, ⟨16.0, 1.618⟩, schema.headings, 0⟩

end ScaleSection

theorem hasStrains_spacingTokens (schema : ScaleSchema) (doc : Members) :
    HasStrains (fun fault => ∃ m, doc.get "spacing" = .object m ∧ (ScaleSection.spacing schema m).Strains fault)
      (spacingTokens schema doc) :=
  hasStrains_section .pure fun m => (ScaleSection.spacing schema m).hasStrains _

theorem hasStrains_textTokens (schema : ScaleSchema) (typography : Members) :
    HasStrains (fun fault => ∃ m, typography.get "text" = .object m ∧ (ScaleSection.text schema m).Strains fault)
      (textTokens schema typography) :=
  hasStrains_section .pure fun m => (ScaleSection.text schema m).hasStrains _

theorem hasStrains_headingTokens (schema : ScaleSchema) (typography : Members) :
    HasStrains (fun fault => ∃ m, typography.get "headings" = .object m ∧ (ScaleSection.headings schema m).Strains fault)
      (headingTokens schema typography) :=
  hasStrains_section .pure fun m => (ScaleSection.headings schema m).hasStrains _

theorem hasStrains_typographyTokens (schema : ScaleSchema) (doc : Members) :
    HasStrains
      (fun fault =>
        (∃ m, (inner doc "typography").get "text" = .object m ∧ (ScaleSection.text schema m).Strains fault) ∨
        ∃ m, (inner doc "typography").get "headings" = .object m ∧ (ScaleSection.headings schema m).Strains fault)
      (typographyTokens schema doc) := by
  unfold typographyTokens
  refine (hasStrains_section? _ _ _).bind_right fun found hfound => ?_
  rw [section?_eq_ok hfound]
  exact (hasStrains_textTokens schema _).bind fun _ _ => (hasStrains_headingTokens schema _).bind_left fun _ => .pure

/-! ### Colors -/

/-- The value that gives the lightness of a hue, null for one that is switched off. -/
def lightnessOf (entry : Value) : Value :=
  match entry with
  | .object m => if enabled m then Members.get m "value" else .null
  | v => v

/-- A hue is active when its lightness is not null. -/
theorem lightness?_eq (name : String) (entry : Value) :
    ∃ place, lightness? name entry =
      if (lightnessOf entry).isNull then .ok none else some <$> number (lightnessOf entry) place 0.0 := by
  cases entry with
  | object m =>
    refine ⟨"color.hues." ++ name ++ ".value", ?_⟩
    simp only [lightness?, lightnessOf]
    by_cases hon : enabled m = true
    · simp only [hon, Bool.not_true, Bool.false_or, if_true]
    · simp only [hon, Bool.not_false, Bool.true_or, if_true, Bool.false_eq_true, if_false, Value.isNull]
  | null => exact ⟨"", rfl⟩
  | _ => exact ⟨"color.hues." ++ name, rfl⟩

theorem hasStrains_lightness? (name : String) (entry : Value) :
    HasStrains (TooLarge (lightnessOf entry)) (lightness? name entry) := by
  obtain ⟨place, h⟩ := lightness?_eq name entry
  rw [h]
  split
  case isTrue hnull => exact .ok fun fault h => absurd hnull (by simp [h.not_isNull])
  case isFalse => exact (hasStrains_number _ _ _).map some

theorem hasStrains_activeHues (hues : Members) :
    HasStrains (fun fault => ∃ hue ∈ hues, TooLarge (lightnessOf hue.2) fault) (activeHues hues) := by
  induction hues with
  | nil => exact HasStrains.ok fun fault => by simp
  | cons hue rest ih =>
    obtain ⟨name, entry⟩ := hue
    refine ((hasStrains_lightness? name entry).bind fun _ _ => ih.bind_left fun _ => .pure).congr fun fault => ?_
    simp

/-- A hex color has no shade at one of the lightnesses. -/
def Unshaded (rounding : Color.Rounding) (hues : Members) (base : String) (fault : Fault) : Prop :=
  ∃ color, Color.hls? rounding base = some color ∧
    ∃ hue ∈ hues, Color.hexOf (.float (color.hue * 360.0)) (.float (color.saturation * 100.0)) hue.2 = .error fault

theorem hasStrains_shades (base : String) (hues : Members) :
    HasStrains (Unshaded rounding hues base) (Color.shades rounding base hues) := by
  unfold Color.shades
  cases hc : Color.hls? rounding base with
  | none => exact HasStrains.ok fun fault => by simp [Unshaded, hc]
  | some color =>
    refine (HasStrains.mapM (fun hue => (HasStrains.self _).bind_left fun _ => .pure) hues).congr fun fault => ?_
    simp only [Unshaded, hc, Option.some.injEq, exists_eq_left']

theorem hasStrains_colorTokens (hues : Members) (name : String) (color : Value) :
    HasStrains (Unshaded rounding hues color.print) (colorTokens rounding hues name color) := by
  unfold colorTokens
  simp only
  split
  case isTrue hempty =>
    rw [List.isEmpty_iff.mp hempty]
    exact HasStrains.ok fun fault => by simp [Unshaded]
  case isFalse => exact (hasStrains_shades _ _).bind_left fun _ => .pure

theorem hasStrains_paletteTokens (hues colors : Members) :
    HasStrains
      (fun fault => ∃ entry ∈ colors, ∃ color, colorOf? entry.2 = some color ∧ Unshaded rounding hues color.print fault)
      (paletteTokens rounding hues colors) := by
  induction colors with
  | nil => exact HasStrains.ok fun fault => by simp
  | cons entry rest ih =>
    obtain ⟨name, entry⟩ := entry
    unfold paletteTokens
    cases hc : colorOf? entry with
    | none =>
      refine (HasStrains.bind_right .pure fun _ _ => ih.bind_left fun _ => .pure).congr fun fault => ?_
      simp [hc]
    | some color =>
      refine ((hasStrains_colorTokens hues name color).bind fun _ _ => ih.bind_left fun _ => .pure).congr fun fault => ?_
      simp [hc]

theorem hasStrains_sectionTokens (hues : Members) (sections : List Members) :
    HasStrains
      (fun fault => ∃ data ∈ sections, ∃ entry ∈ inner data "colors", ∃ color,
        colorOf? entry.2 = some color ∧ Unshaded rounding hues color.print fault)
      (sectionTokens rounding hues sections) := by
  induction sections with
  | nil => exact HasStrains.ok fun fault => by simp
  | cons data rest ih =>
    unfold sectionTokens
    refine ((hasStrains_section? _ _ _).bind_right fun found hfound => ?_)
    rw [section?_eq_ok hfound]
    refine ((hasStrains_paletteTokens hues (inner data "colors")).bind fun _ _ => ih.bind_left fun _ => .pure).congr
      fun fault => ?_
    simp

theorem hasStrains_colorSections (color : Members) : HasStrains NoStrain (colorSections color) := by
  unfold colorSections
  split
  · exact .pure
  · exact .pure
  · exact .pure
  · exact .problem

/-- The strains of the color section: the lightness of an active hue is too large, or a color has no shade at
one of the lightnesses that the hues come to. -/
inductive ColorStrains (rounding : Color.Rounding) (color : Members) : Fault → Prop
  | lightness {hue : String × Value} {fault : Fault} (hhue : hue ∈ inner color "hues")
    (h : TooLarge (lightnessOf hue.2) fault) : ColorStrains rounding color fault
  | shade {hues : Members} {sections : List Members} {data : Members} {entry : String × Value} {value : Value}
    {fault : Fault} (hhues : activeHues (inner color "hues") = .ok hues) (hsections : colorSections color = .ok sections)
    (hdata : data ∈ sections) (hentry : entry ∈ inner data "colors") (hvalue : colorOf? entry.2 = some value)
    (h : Unshaded rounding hues value.print fault) : ColorStrains rounding color fault

theorem hasStrains_allColorTokens (doc : Members) :
    HasStrains (fun fault => ∃ color, doc.get "color" = .object color ∧ ColorStrains rounding color fault)
      (allColorTokens rounding doc) := by
  refine hasStrains_section .pure fun color => ?_
  refine (hasStrains_section? _ _ _).bind_right fun found hfound => ?_
  rw [section?_eq_ok hfound]
  refine ((hasStrains_activeHues (inner color "hues")).bind_exists fun hues =>
    (hasStrains_colorSections color).bind_exists fun sections => hasStrains_sectionTokens hues sections).congr
    fun fault => ?_
  constructor
  · rintro (⟨hue, hhue, h⟩ | ⟨hues, hhues, hno | ⟨sections, hsections, data, hdata, entry, hentry, value, hvalue, h⟩⟩)
    · exact .lightness hhue h
    · exact False.elim hno
    · exact .shade hhues hsections hdata hentry hvalue h
  · rintro (⟨hhue, h⟩ | ⟨hhues, hsections, hdata, hentry, hvalue, h⟩)
    · exact .inl ⟨_, hhue, h⟩
    · exact .inr ⟨_, hhues, .inr ⟨_, hsections, _, hdata, _, hentry, _, hvalue, h⟩⟩

/-! ### Borders, radius and shadows -/

theorem hasStrains_flatTokens (doc : Members) (key start : String) (category : Category) :
    HasStrains NoStrain (flatTokens doc key start category) := by
  refine (hasStrains_section? _ _ _).bind_right fun found _ => ?_
  cases found with
  | none => exact .pure
  | some data => exact (hasStrains_section? _ _ _).bind_left fun _ => .pure

theorem hasStrains_shadowTokens (doc : Members) : HasStrains NoStrain (shadowTokens doc) :=
  (hasStrains_section? _ _ _).bind_left fun _ => .pure

/-! ### Documents -/

/-- A section that compiles through a scale is part of a document. -/
inductive ScaleSection.Of (schema : ScaleSchema) (doc : Members) : ScaleSection → Prop
  | spacing {m : Members} (h : doc.get "spacing" = .object m) : Of schema doc (.spacing schema m)
  | text {m : Members} (h : (inner doc "typography").get "text" = .object m) : Of schema doc (.text schema m)
  | headings {m : Members} (h : (inner doc "typography").get "headings" = .object m) :
    Of schema doc (.headings schema m)

/-- The strains of a document: those of its scales and of its colors. -/
inductive Strains (rounding : Color.Rounding) (schema : ScaleSchema) (doc : Members) : Fault → Prop
  | scale {s : ScaleSection} {fault : Fault} (hs : s.Of schema doc) (h : s.Strains fault) :
    Strains rounding schema doc fault
  | color {color : Members} {fault : Fault} (hcolor : doc.get "color" = .object color)
    (h : ColorStrains rounding color fault) : Strains rounding schema doc fault

theorem hasStrains_compileMembers (schema : ScaleSchema) (doc : Members) :
    HasStrains (Strains rounding schema doc) (compileMembers rounding schema doc) := by
  unfold compileMembers
  refine ((hasStrains_spacingTokens schema doc).bind fun _ _ => (hasStrains_typographyTokens schema doc).bind fun _ _ =>
    (hasStrains_allColorTokens doc).bind_left fun _ => (hasStrains_flatTokens _ _ _ _).bind_right fun _ _ =>
      (hasStrains_shadowTokens doc).bind_right fun _ _ => (hasStrains_flatTokens _ _ _ _).bind_left fun _ => .pure).congr
    fun fault => ?_
  constructor
  · rintro (⟨m, hm, h⟩ | (⟨m, hm, h⟩ | ⟨m, hm, h⟩) | ⟨m, hm, h⟩)
    · exact .scale (.spacing hm) h
    · exact .scale (.text hm) h
    · exact .scale (.headings hm) h
    · exact .color hm h
  · rintro (⟨hm | hm | hm, h⟩ | ⟨hm, h⟩)
    · exact .inl ⟨_, hm, h⟩
    · exact .inr (.inl (.inl ⟨_, hm, h⟩))
    · exact .inr (.inl (.inr ⟨_, hm, h⟩))
    · exact .inr (.inr ⟨_, hm, h⟩)

/-! ### Strains are faults of arithmetic -/

theorem TooLarge.isArithmetic {v : Value} {fault : Fault} (h : TooLarge v fault) : fault.isArithmetic = true := by
  cases h
  rfl

theorem isArithmetic_channelText {x : Float} {fault : Fault} (h : Color.channelText x = .error fault) :
    fault.isArithmetic = true := by
  unfold Color.channelText at h
  obtain h | ⟨n, -, h⟩ := except_bind_eq_error.mp h
  · exact isArithmetic_floor h
  · split at h <;> cases h

theorem isArithmetic_hexOf {hue saturation lightness : Float} {fault : Fault}
    (h : Color.hexOf (.float hue) (.float saturation) (.float lightness) = .error fault) :
    fault.isArithmetic = true := by
  obtain h | ⟨_, -, h⟩ := except_bind_eq_error.mp h
  · cases h
  obtain h | ⟨_, -, h⟩ := except_bind_eq_error.mp h
  · cases h
  obtain h | ⟨_, -, h⟩ := except_bind_eq_error.mp h
  · cases h
  obtain h | ⟨_, -, h⟩ := except_bind_eq_error.mp h
  · exact isArithmetic_channelText h
  obtain h | ⟨_, -, h⟩ := except_bind_eq_error.mp h
  · exact isArithmetic_channelText h
  obtain h | ⟨_, -, h⟩ := except_bind_eq_error.mp h
  · exact isArithmetic_channelText h
  · cases h

/-- The active hues come with doubles. -/
theorem float_of_activeHues {hues found : Members} (h : activeHues hues = .ok found) :
    ∀ hue ∈ found, ∃ x, hue.2 = .float x := by
  induction hues generalizing found with
  | nil =>
    cases h
    exact fun hue hhue => by cases hhue
  | cons hue rest ih =>
    obtain ⟨lightness, -, h⟩ := except_bind_eq_ok.mp h
    obtain ⟨others, hothers, h⟩ := except_bind_eq_ok.mp h
    cases lightness with
    | none =>
      cases h
      exact ih hothers
    | some x =>
      cases h
      intro hue hhue
      obtain rfl | hhue := List.mem_cons.mp hhue
      · exact ⟨x, rfl⟩
      · exact ih hothers hue hhue

theorem Strains.isArithmetic {schema : ScaleSchema} {doc : Members} {fault : Fault}
    (h : Strains rounding schema doc fault) : fault.isArithmetic = true := by
  cases h with
  | scale _ h =>
    cases h with
    | parameter _ h => exact h.isArithmetic
    | size _ _ _ _ h => exact h.isArithmetic
  | color _ h =>
    cases h with
    | lightness _ h => exact h.isArithmetic
    | shade hhues _ _ _ _ h =>
      obtain ⟨color, -, hue, hhue, h⟩ := h
      obtain ⟨x, hx⟩ := float_of_activeHues hhues hue hhue
      rw [hx] at h
      exact isArithmetic_hexOf h

/-- A value compiles to a table and is then an object without strains, or it ends in a problem of the
document, or it is an object and ends in one of its strains, which is a fault of arithmetic. -/
theorem compile_outcomes (rounding : Color.Rounding) (schema : ScaleSchema) (doc : Value) :
    (∃ table m, compile rounding schema doc = .ok table ∧ doc = .object m ∧ ∀ fault, ¬Strains rounding schema m fault) ∨
    (∃ problem, compile rounding schema doc = .error (.tokenDocument none problem)) ∨
    (∃ fault m, compile rounding schema doc = .error fault ∧ fault.isArithmetic = true ∧ doc = .object m ∧
      Strains rounding schema m fault) := by
  cases doc with
  | object m =>
    have h : HasStrains (Strains rounding schema m) (compileMembers rounding schema m) :=
      hasStrains_compileMembers schema m
    have hcompile : compile rounding schema (.object m) = compileMembers rounding schema m := rfl
    rw [hcompile]
    cases hr : compileMembers rounding schema m with
    | ok table =>
      rw [hr] at h
      exact .inl ⟨table, m, rfl, rfl, h⟩
    | error fault =>
      rw [hr] at h
      obtain ⟨problem, rfl⟩ | hstrain := h
      · exact .inr (.inl ⟨problem, rfl⟩)
      · exact .inr (.inr ⟨fault, m, rfl, hstrain.isArithmetic, rfl, hstrain⟩)
  | _ => exact .inr (.inl ⟨.notDocument, rfl⟩)

/-- A scale of zero has no size at the first of the standard positions, and this is reported as division by
zero and not as a problem of the document. -/
theorem compile_zero_scale :
    ¬∀ (data : Value) (schema : ScaleSchema) (doc : Value), ScaleSchema.ofValue data = .ok schema →
      (∃ table, compile .oneByOne schema doc = .ok table) ∨
        ∃ problem, compile .oneByOne schema doc = .error (.tokenDocument none problem) := by
  intro h
  have hfault : compile .oneByOne ScaleSchema.standard (.object [("spacing", .object [("scale", .int 0)])]) =
      .error .zeroDivision := by
    rfl
  obtain ⟨table, htable⟩ | ⟨problem, hproblem⟩ :=
    h (.object []) .standard (.object [("spacing", .object [("scale", .int 0)])]) rfl
  · rw [hfault] at htable
    cases htable
  · rw [hfault] at hproblem
    cases hproblem

end DesignKit.TokenDocument
