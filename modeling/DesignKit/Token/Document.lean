import DesignKit.Color
import DesignKit.Scale
import DesignKit.Token

/-! # Token documents

A token document is an object with sections for spacing, typography, color, borders, shadows and radius.
Each section compiles on its own to tokens, and a document to the tokens of its sections in that order. A
section that is absent or null gives none. -/

namespace DesignKit.TokenDocument
open Number

/-- A fault of the document. -/
def fault (problem : TokenProblem) : Fault :=
  .tokenDocument none problem

/-- The object under a key; absent and null count as none. The place is where the object itself lies. -/
def section? (data : Members) (key place : String) : Except Fault (Option Members) :=
  match data.get key with
  | .null => .ok none
  | .object m => .ok (some m)
  | _ => .error (fault (.notObject (place ++ key)))

/-- An entry counts unless it is switched off by `false` itself. -/
def enabled (entry : Members) : Bool :=
  match entry.get "enabled" with
  | .bool b => b
  | _ => true

/-- A number for a stylesheet: whole doubles without a point, truth values as one and zero. -/
def numberText : Value → String
  | .bool b => if b then "1" else "0"
  | .float x =>
    match whole? x with
    | some n => intText n
    | none => FloatStyle.plain.text x
  | v => v.print

/-- A length in pixels. A text that is not a number carries its own unit and stays as it is. -/
def pixels (v : Value) : String :=
  match v with
  | .text s => if (readFloat? s).isSome then s ++ "px" else s
  | v => numberText v ++ "px"

/-- The number that a value gives, a default when it is null. Texts may write numbers; truth values are not
numbers. -/
def number (v : Value) (place : String) (default : Float) : Except Fault Float :=
  match v with
  | .null => .ok default
  | .int n => ofInt n
  | .float x => .ok x
  | .text s =>
    match readFloat? s with
    | some x => .ok x
    | none => .error (fault (.notNumber place v))
  | v => .error (fault (.notNumber place v))

/-- The scale of a section, its missing parameters taken from another scale. -/
def scaleOf (data : Members) (default : Scale) (place : String) : Except Fault Scale := do
  let base ← number (data.get "baseSize") (place ++ "baseSize") default.base
  let factor ← number (data.get "scale") (place ++ "scale") default.factor
  return ⟨base, factor⟩

/-- The overrides of a section. -/
def overridesOf (data : Members) (place : String) : Except Fault Members := do
  return (← section? data "sizes" place).getD []

/-! ### Spacing and text -/

/-- The tokens of a scale: one for each position, under a common start of the name. -/
def scaleTokens (data : Members) (place : String) (default : Scale) (positions : List ScalePosition)
    (start : String) (category : Category) (digits : Int) : Except Fault (List Token) := do
  let scale ← scaleOf data default place
  let overrides ← overridesOf data place
  let values ← scale.sizes overrides digits positions
  return positions.map fun p => ⟨"--" ++ start ++ p.name, category.name, pixels (values.get p.name)⟩

/-- The tokens of the spacing section. -/
def spacingTokens (schema : ScaleSchema) (doc : Members) : Except Fault (List Token) := do
  match ← section? doc "spacing" "" with
  | none => return []
  | some data => scaleTokens data "spacing." ⟨16.0, 1.5⟩ schema.spacing "space-" .spacing 0

/-- The tokens of the text sizes, which are rounded to one place. -/
def textTokens (schema : ScaleSchema) (typography : Members) : Except Fault (List Token) := do
  match ← section? typography "text" "typography." with
  | none => return []
  | some data => scaleTokens data "typography.text." ⟨16.0, 1.125⟩ schema.text "text-" .typography 1

/-! ### Headings -/

/-- What a heading may declare besides its size: the member, the end of the variable's name, the unit. -/
def headingExtras : List (String × String × String) :=
  [("lineHeight", "line-height", ""), ("letterSpacing", "letter-spacing", "em"), ("weight", "weight", "")]

/-- The variable of a heading. -/
def headingKey (p : ScalePosition) : String :=
  match p.cssKey with
  | some "" => "heading-" ++ p.name
  | some key => key
  | none => "heading-" ++ p.name

/-- The tokens of what a heading declares besides its size. -/
def extraTokens (key : String) (entry : Value) : List Token :=
  match entry.members? with
  | some entry =>
    headingExtras.filterMap fun (member, suffix, unit) =>
      if (entry.get member).isNull then none
      else some ⟨"--" ++ key ++ "-" ++ suffix, Category.typography.name, numberText (entry.get member) ++ unit⟩
  | none => []

/-- The tokens of the headings: for each its size, followed by what else it declares. -/
def headingTokens (schema : ScaleSchema) (typography : Members) : Except Fault (List Token) := do
  match ← section? typography "headings" "typography." with
  | none => return []
  | some data =>
    let scale ← scaleOf data ⟨16.0, 1.618⟩ "typography.headings."
    let overrides ← overridesOf data "typography.headings."
    let values ← scale.sizes overrides 0 schema.headings
    return schema.headings.flatMap fun p =>
      ⟨"--" ++ headingKey p, Category.typography.name, pixels (values.get p.name)⟩ ::
        extraTokens (headingKey p) (overrides.get p.name)

/-- The tokens of the typography section: text sizes, then headings. -/
def typographyTokens (schema : ScaleSchema) (doc : Members) : Except Fault (List Token) := do
  let typography := (← section? doc "typography" "").getD []
  let text ← textTokens schema typography
  let headings ← headingTokens schema typography
  return text ++ headings

/-! ### Colors -/

/-- The lightness that an entry of the hues gives, if it gives one. -/
def lightness? (name : String) (entry : Value) : Except Fault (Option Float) :=
  match entry with
  | .object m =>
    if !enabled m || (Members.get m "value").isNull then .ok none
    else some <$> number (Members.get m "value") ("color.hues." ++ name ++ ".value") 0.0
  | .null => .ok none
  | v => some <$> number v ("color.hues." ++ name) 0.0

/-- The active hues with their lightness, in order. -/
def activeHues (hues : Members) : Except Fault Members :=
  match hues with
  | [] => .ok []
  | (name, entry) :: rest => do
    let found ← lightness? name entry
    let others ← activeHues rest
    return match found with
      | some x => (name, .float x) :: others
      | none => others

/-- The color sections: the objects among the values of an object or the items of a list. -/
def colorSections (color : Members) : Except Fault (List Members) :=
  match color.get "sections" with
  | .null => .ok []
  | .object m => .ok (m.filterMap fun (_, v) => v.members?)
  | .list items => .ok (items.filterMap Value.members?)
  | _ => .error (fault .notSections)

/-- The color of an entry: the text itself, or the `color` or else the `value` of an object that is switched
on. A false value is no color. -/
def colorOf? (entry : Value) : Option Value :=
  match entry with
  | .text s => if s == "" then none else some (.text s)
  | .object m =>
    let v := (Members.get m "color").orElse (Members.get m "value")
    if enabled m && v.truthy then some v else none
  | _ => none

/-- The tokens of a color: its own and one for each of its shades. -/
def colorTokens (rounding : Color.Rounding) (hues : Members) (name : String) (color : Value) :
    Except Fault (List Token) := do
  let shades ← if hues.isEmpty then pure [] else Color.shades rounding color.print hues
  return ⟨"--" ++ name, Category.colors.name, color.print⟩ ::
    shades.map fun (hue, shade) => ⟨"--" ++ name ++ "-" ++ hue, Category.colors.name, shade⟩

/-- The tokens of the entries of a color section. -/
def paletteTokens (rounding : Color.Rounding) (hues : Members) : Members → Except Fault (List Token)
  | [] => .ok []
  | (name, entry) :: rest => do
    let tokens ← match colorOf? entry with
      | some color => colorTokens rounding hues name color
      | none => pure []
    let others ← paletteTokens rounding hues rest
    return tokens ++ others

/-- The tokens of color sections. -/
def sectionTokens (rounding : Color.Rounding) (hues : Members) : List Members → Except Fault (List Token)
  | [] => .ok []
  | data :: rest => do
    let colors := (← section? data "colors" "color.sections.*.").getD []
    let tokens ← paletteTokens rounding hues colors
    let others ← sectionTokens rounding hues rest
    return tokens ++ others

/-- The tokens of the color section. -/
def allColorTokens (rounding : Color.Rounding) (doc : Members) : Except Fault (List Token) := do
  match ← section? doc "color" "" with
  | none => return []
  | some color =>
    let hues ← activeHues ((← section? color "hues" "color.").getD [])
    let sections ← colorSections color
    sectionTokens rounding hues sections

/-! ### Borders, radius and shadows -/

/-- The token of a flat size: that of an object that is switched on and has a value. -/
def sizeToken? (start : String) (category : Category) (name : String) (entry : Value) : Option Token :=
  match entry with
  | .object m =>
    if !enabled m || (Members.get m "value").isNull then none
    else some ⟨"--" ++ start ++ "-" ++ name, category.name, pixels (Members.get m "value")⟩
  | _ => none

/-- The tokens of a section of flat sizes. -/
def flatTokens (doc : Members) (key start : String) (category : Category) : Except Fault (List Token) := do
  match ← section? doc key "" with
  | none => return []
  | some data =>
    let sizes := (← section? data "sizes" (key ++ ".")).getD []
    return sizes.filterMap fun (name, entry) => sizeToken? start category name entry

/-- A shadow as a stylesheet writes it, none when one of its five numbers is missing. -/
def shadowText? (entry : Members) : Option String :=
  let parts := ["x", "y", "blur", "spread", "opacity"].map entry.get
  if parts.any Value.isNull then none
  else
    match parts.map numberText with
    | [x, y, blur, spread, opacity] =>
      some (x ++ "px " ++ y ++ "px " ++ blur ++ "px " ++ spread ++ "px rgba(0,0,0," ++ opacity ++ ")")
    | _ => none

/-- The token of a shadow: that of an object that is switched on and complete. -/
def shadowToken? (name : String) (entry : Value) : Option Token :=
  match entry with
  | .object m =>
    if enabled m then (shadowText? m).map fun s => ⟨"--shadow-" ++ name, Category.shadows.name, s⟩ else none
  | _ => none

/-- The tokens of the shadows section. -/
def shadowTokens (doc : Members) : Except Fault (List Token) := do
  let shadows := (← section? doc "shadows" "").getD []
  return shadows.filterMap fun (name, entry) => shadowToken? name entry

/-! ### Documents -/

/-- The tokens of a document. -/
def compileMembers (rounding : Color.Rounding) (schema : ScaleSchema) (doc : Members) : Except Fault Table := do
  let spacing ← spacingTokens schema doc
  let typography ← typographyTokens schema doc
  let colors ← allColorTokens rounding doc
  let borders ← flatTokens doc "borders" "border" .borders
  let shadows ← shadowTokens doc
  let radius ← flatTokens doc "radius" "radius" .radius
  return spacing ++ typography ++ colors ++ borders ++ shadows ++ radius

/-- The tokens of a document, which must be an object. -/
def compile (rounding : Color.Rounding) (schema : ScaleSchema) (doc : Value) : Except Fault Table :=
  match doc with
  | .object m => compileMembers rounding schema m
  | _ => .error (fault .notDocument)

/-- Reads a document from its text. The source is named in faults unless it is empty. -/
def parse (text : String) (source : Option String) : Except Fault Members :=
  let source := source.filter (· != "")
  match Json.read text with
  | .error f => .error (.tokenDocument source (.unreadable f))
  | .ok (.object m) => .ok m
  | .ok _ => .error (.tokenDocument source .notJsonObject)

end DesignKit.TokenDocument
