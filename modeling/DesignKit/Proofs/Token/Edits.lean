import DesignKit.Proofs.Token.Reading

/-! # Edits that a compilation does not see

The reading of a token document, section by section, and what follows from it: a section compiles alike in two
documents when its reading finds the same in both. -/

namespace DesignKit.TokenDocument
open Reading

variable {rounding : Color.Rounding}

/-! ### The reading of a document -/

/-- An entry of which the given members are looked up and taken as they are. -/
def entryReading (keys : List String) : Reading :=
  .record (keys.map (·, .whole))

/-- A section with a scale, whose overrides are looked up by the names of the positions. -/
def scaleReading (keys : List String) : Reading :=
  .record [("baseSize", .whole), ("scale", .whole), ("sizes", .named (entryReading keys))]

def overrideKeys : List String := ["enabled", "value"]

def headingKeys : List String := ["enabled", "value", "lineHeight", "letterSpacing", "weight"]

def typographyReading : Reading :=
  .record [("text", scaleReading overrideKeys), ("headings", scaleReading headingKeys)]

/-- A palette: its colors in order. -/
def paletteReading : Reading :=
  .record [("colors", .ordered (entryReading ["enabled", "color", "value"]))]

def colorReading : Reading :=
  .record [("hues", .ordered (entryReading ["enabled", "value"])), ("sections", .ordered paletteReading)]

def flatReading : Reading :=
  .record [("sizes", .ordered (entryReading ["enabled", "value"]))]

def shadowsReading : Reading :=
  .ordered (entryReading ["enabled", "x", "y", "blur", "spread", "opacity"])

def documentReading : Reading :=
  .record [("spacing", scaleReading overrideKeys), ("typography", typographyReading), ("color", colorReading),
    ("borders", flatReading), ("shadows", shadowsReading), ("radius", flatReading)]

/-! ### Sections with a scale -/

section Scale
variable {keys : List String}

theorem scaleOf_congr {a b : Members} (h : Same (scaleReading keys) (.object a) (.object b)) (default : Scale)
    (place : String) : scaleOf a default place = scaleOf b default place := by
  have hbase : a.get "baseSize" = b.get "baseSize" := h.get_eq rfl
  have hfactor : a.get "scale" = b.get "scale" := h.get_eq rfl
  rw [scaleOf, scaleOf, hbase, hfactor]

theorem overridesOf_bind {α : Type} {a b : Members} (h : Same (scaleReading keys) (.object a) (.object b))
    (place : String) {k k' : Members → Except Fault α}
    (hk : ∀ m n : Members, Same (.named (entryReading keys)) (.object m) (.object n) → k m = k' n) :
    overridesOf a place >>= k = overridesOf b place >>= k' := by
  have hsizes : Same (.named (entryReading keys)) (a.get "sizes") (b.get "sizes") := h.field rfl
  have hbind : (section? a "sizes" place >>= fun found => k (found.getD [])) =
      (section? b "sizes" place >>= fun found => k' (found.getD [])) :=
    hsizes.section?_bind place (hk [] [] (.refl _ _)) hk
  unfold overridesOf
  cases ha : section? a "sizes" place <;> cases hb : section? b "sizes" place <;> rw [ha, hb] at hbind <;> exact hbind

theorem override?_congr (henabled : (keys.map (·, Reading.whole)).lookup "enabled" = some .whole)
    (hvalue : (keys.map (·, Reading.whole)).lookup "value" = some .whole) {m n : Members}
    (h : Same (.named (entryReading keys)) (.object m) (.object n)) (name : String) :
    override? m name = override? n name := by
  unfold override?
  rcases (h.under name).record_cases with heq | ⟨a, b, ha, hb, hsame⟩
  · rw [heq]
  · rw [ha, hb, Value.members?, Value.members?]
    simp only
    rw [hsame.get_eq henabled, hsame.get_eq hvalue]

theorem sizes_congr (henabled : (keys.map (·, Reading.whole)).lookup "enabled" = some .whole)
    (hvalue : (keys.map (·, Reading.whole)).lookup "value" = some .whole) {m n : Members}
    (h : Same (.named (entryReading keys)) (.object m) (.object n)) (scale : Scale) (digits : Int)
    (positions : List ScalePosition) : scale.sizes m digits positions = scale.sizes n digits positions := by
  have hoverride := override?_congr henabled hvalue h
  simp only [Scale.sizes, hoverride]

end Scale

theorem scaleTokens_congr {a b : Members} (h : Same (scaleReading overrideKeys) (.object a) (.object b)) (place : String)
    (default : Scale) (positions : List ScalePosition) (start : String) (category : Category) (digits : Int) :
    scaleTokens a place default positions start category digits =
      scaleTokens b place default positions start category digits := by
  unfold scaleTokens
  rw [scaleOf_congr h]
  refine congrArg _ (funext fun scale => overridesOf_bind h place fun m n hsame => ?_)
  rw [sizes_congr rfl rfl hsame]

theorem extraTokens_congr {v w : Value} (h : Same (entryReading headingKeys) v w) (key : String) :
    extraTokens key v = extraTokens key w := by
  rcases h.record_cases with rfl | ⟨m, n, rfl, rfl, h⟩
  · rfl
  · have hheight : m.get "lineHeight" = n.get "lineHeight" := h.get_eq rfl
    have hspacing : m.get "letterSpacing" = n.get "letterSpacing" := h.get_eq rfl
    have hweight : m.get "weight" = n.get "weight" := h.get_eq rfl
    simp only [extraTokens, Value.members?, headingExtras, List.filterMap_cons, List.filterMap_nil, hheight, hspacing,
      hweight]

theorem spacingTokens_congr (schema : ScaleSchema) {m n : Members}
    (h : Same documentReading (.object m) (.object n)) : spacingTokens schema m = spacingTokens schema n := by
  have hfield : Same (scaleReading overrideKeys) (m.get "spacing") (n.get "spacing") := h.field rfl
  exact hfield.section?_bind "" rfl fun a b hsame => scaleTokens_congr hsame ..

theorem textTokens_congr (schema : ScaleSchema) {m n : Members}
    (h : Same typographyReading (.object m) (.object n)) : textTokens schema m = textTokens schema n := by
  have hfield : Same (scaleReading overrideKeys) (m.get "text") (n.get "text") := h.field rfl
  exact hfield.section?_bind "typography." rfl fun a b hsame => scaleTokens_congr hsame ..

theorem headingTokens_congr (schema : ScaleSchema) {m n : Members}
    (h : Same typographyReading (.object m) (.object n)) : headingTokens schema m = headingTokens schema n := by
  have hfield : Same (scaleReading headingKeys) (m.get "headings") (n.get "headings") := h.field rfl
  refine hfield.section?_bind "typography." rfl fun a b hsame => ?_
  simp only
  rw [scaleOf_congr hsame]
  refine congrArg _ (funext fun scale => overridesOf_bind hsame _ fun c d hoverrides => ?_)
  have hextra : ∀ p : ScalePosition, extraTokens (headingKey p) (c.get p.name) = extraTokens (headingKey p) (d.get p.name) :=
    fun p => extraTokens_congr (hoverrides.under p.name) _
  simp only [sizes_congr rfl rfl hoverrides, hextra]

theorem typographyTokens_congr (schema : ScaleSchema) {m n : Members}
    (h : Same documentReading (.object m) (.object n)) : typographyTokens schema m = typographyTokens schema n := by
  have hfield : Same typographyReading (m.get "typography") (n.get "typography") := h.field rfl
  refine hfield.section?_bind "" rfl fun a b hsame => ?_
  simp only [Option.getD_some]
  rw [textTokens_congr schema hsame, headingTokens_congr schema hsame]

/-! ### Colors -/

theorem enabled_congr {m n : Members} (h : m.get "enabled" = n.get "enabled") : enabled m = enabled n := by
  rw [enabled, enabled, h]

theorem enabled_of_off {m : Members} (hoff : m.get "enabled" = .bool false) : enabled m = false := by
  rw [enabled, hoff]

theorem lightness?_congr (name : String) {v w : Value} (h : Same (entryReading ["enabled", "value"]) v w) :
    lightness? name v = lightness? name w := by
  rcases h.record_cases with rfl | ⟨m, n, rfl, rfl, h⟩
  · rfl
  · have hvalue : m.get "value" = n.get "value" := h.get_eq rfl
    simp only [lightness?, enabled_congr (h.get_eq rfl), hvalue]

theorem lightness?_of_idle {r : Reading} (name : String) {v : Value} (h : Idle r v) : lightness? name v = .ok none := by
  cases h with
  | null => rfl
  | off _ hoff => simp only [lightness?, enabled_of_off hoff, Bool.not_false, Bool.true_or, if_true]

theorem activeHues_congr {m n : Members} (h : Same (.ordered (entryReading ["enabled", "value"])) (.object m) (.object n)) :
    activeHues m = activeHues n := by
  induction m generalizing n with
  | nil =>
    cases h
    rfl
  | cons e rest ih =>
    cases h with
    | refl => rfl
    | entry hv h => rw [activeHues, activeHues, lightness?_congr _ hv, ih h]
    | skipEntry hidle h =>
      rw [activeHues, lightness?_of_idle _ hidle, ih h]
      exact bind_pure (activeHues n)

theorem colorOf?_congr {v w : Value} (h : Same (entryReading ["enabled", "color", "value"]) v w) :
    colorOf? v = colorOf? w := by
  rcases h.record_cases with rfl | ⟨m, n, rfl, rfl, h⟩
  · rfl
  · have hcolor : m.get "color" = n.get "color" := h.get_eq rfl
    have hvalue : m.get "value" = n.get "value" := h.get_eq rfl
    simp only [colorOf?, enabled_congr (h.get_eq rfl), hcolor, hvalue]

theorem colorOf?_of_idle {r : Reading} {v : Value} (h : Idle r v) : colorOf? v = none := by
  cases h with
  | null => rfl
  | off _ hoff => simp only [colorOf?, enabled_of_off hoff, Bool.false_and, Bool.false_eq_true, if_false]

theorem paletteTokens_congr (hues : Members) {m n : Members}
    (h : Same (.ordered (entryReading ["enabled", "color", "value"])) (.object m) (.object n)) :
    paletteTokens rounding hues m = paletteTokens rounding hues n := by
  induction m generalizing n with
  | nil =>
    cases h
    rfl
  | cons e rest ih =>
    cases h with
    | refl => rfl
    | entry hv h => rw [paletteTokens, paletteTokens, colorOf?_congr hv, ih h]
    | skipEntry hidle h =>
      rw [paletteTokens, colorOf?_of_idle hidle, ih h]
      simp only [pure_bind, List.nil_append, bind_pure]

/-- The switch of a palette is not looked at, so an idle one is null. -/
theorem members?_of_idle_palette {v : Value} (h : Idle paletteReading v) : v.members? = none := by
  cases h with
  | null => rfl
  | off hswitch => cases hswitch

theorem sectionTokens_congr (hues : Members) {vs ws : List Value}
    (h : Same (.ordered paletteReading) (.list vs) (.list ws)) :
    sectionTokens rounding hues (vs.filterMap Value.members?) =
      sectionTokens rounding hues (ws.filterMap Value.members?) := by
  induction vs generalizing ws with
  | nil =>
    cases h
    rfl
  | cons v rest ih =>
    cases h with
    | refl => rfl
    | @item _ _ w _ rest' hv h =>
      rcases hv.record_cases with rfl | ⟨m, n, rfl, rfl, hsame⟩
      · cases hm : v.members? with
        | none => rw [List.filterMap_cons_none hm, List.filterMap_cons_none hm, ih h]
        | some data =>
          rw [List.filterMap_cons_some hm, List.filterMap_cons_some hm, sectionTokens, sectionTokens, ih h]
      · have hcolors : Same (.ordered (entryReading ["enabled", "color", "value"])) (m.get "colors") (n.get "colors") :=
          hsame.field rfl
        refine hcolors.section?_bind "color.sections.*." ?_ fun a b hab => ?_
        · simp only [Option.getD_none, ih h]
        · simp only [Option.getD_some, paletteTokens_congr hues hab, ih h]
    | skipItem hidle h => rw [List.filterMap_cons_none (members?_of_idle_palette hidle), ih h]

/-- The values that may be palettes: the items of a list, or what an object holds under any key. -/
def sectionValues? : Value → Option (List Value)
  | .null => some []
  | .object m => some (m.map (·.2))
  | .list items => some items
  | _ => none

theorem colorSections_eq (color : Members) :
    colorSections color =
      match sectionValues? (color.get "sections") with
      | some values => .ok (values.filterMap Value.members?)
      | none => .error (fault .notSections) := by
  unfold colorSections
  cases color.get "sections" with
  | object m => simp only [sectionValues?, List.filterMap_map]; rfl
  | _ => rfl

theorem colorSections_bind {m n : Members} (h : Same (.ordered paletteReading) (m.get "sections") (n.get "sections"))
    (hues : Members) :
    colorSections m >>= sectionTokens rounding hues = colorSections n >>= sectionTokens rounding hues := by
  rw [colorSections_eq, colorSections_eq]
  generalize m.get "sections" = v at h
  generalize n.get "sections" = w at h
  cases h with
  | refl => rfl
  | entry hv h => exact sectionTokens_congr hues (Same.entry hv h).ordered_values
  | item hv h => exact sectionTokens_congr hues (.item hv h)
  | skipEntry hidle h => exact sectionTokens_congr hues (Same.skipEntry hidle h).ordered_values
  | skipItem hidle h => exact sectionTokens_congr hues (.skipItem hidle h)

theorem allColorTokens_congr {m n : Members} (h : Same documentReading (.object m) (.object n)) :
    allColorTokens rounding m = allColorTokens rounding n := by
  have hfield : Same colorReading (m.get "color") (n.get "color") := h.field rfl
  refine hfield.section?_bind "" rfl fun a b hsame => ?_
  have hhues : Same (.ordered (entryReading ["enabled", "value"])) (a.get "hues") (b.get "hues") := hsame.field rfl
  have hsections : Same (.ordered paletteReading) (a.get "sections") (b.get "sections") := hsame.field rfl
  refine hhues.section?_bind "color." ?_ fun c d hcd => ?_
  · simp only [Option.getD_none, colorSections_bind hsections]
  · simp only [Option.getD_some, activeHues_congr hcd, colorSections_bind hsections]

/-! ### Borders, radius and shadows -/

theorem sizeToken?_congr (start : String) (category : Category) (name : String) {v w : Value}
    (h : Same (entryReading ["enabled", "value"]) v w) :
    sizeToken? start category name v = sizeToken? start category name w := by
  rcases h.record_cases with rfl | ⟨m, n, rfl, rfl, h⟩
  · rfl
  · have hvalue : m.get "value" = n.get "value" := h.get_eq rfl
    simp only [sizeToken?, enabled_congr (h.get_eq rfl), hvalue]

theorem sizeToken?_of_idle {r : Reading} (start : String) (category : Category) (name : String) {v : Value}
    (h : Idle r v) : sizeToken? start category name v = none := by
  cases h with
  | null => rfl
  | off _ hoff => simp only [sizeToken?, enabled_of_off hoff, Bool.not_false, Bool.true_or, if_true]

theorem flatTokens_congr {m n : Members} {key : String} (h : Same flatReading (m.get key) (n.get key)) (start : String)
    (category : Category) : flatTokens m key start category = flatTokens n key start category := by
  refine h.section?_bind "" rfl fun a b hsame => ?_
  have hsizes : Same (.ordered (entryReading ["enabled", "value"])) (a.get "sizes") (b.get "sizes") := hsame.field rfl
  refine hsizes.section?_bind (key ++ ".") rfl fun c d hcd => ?_
  exact congrArg Except.ok (hcd.filterMap_eq (sizeToken?_congr start category) (sizeToken?_of_idle start category))

theorem shadowText?_congr {m n : Members}
    (h : ∀ key ∈ ["x", "y", "blur", "spread", "opacity"], m.get key = n.get key) : shadowText? m = shadowText? n := by
  have hparts : ["x", "y", "blur", "spread", "opacity"].map m.get = ["x", "y", "blur", "spread", "opacity"].map n.get :=
    List.map_congr_left h
  rw [shadowText?, shadowText?, hparts]

theorem shadowToken?_congr (name : String) {v w : Value}
    (h : Same (entryReading ["enabled", "x", "y", "blur", "spread", "opacity"]) v w) :
    shadowToken? name v = shadowToken? name w := by
  rcases h.record_cases with rfl | ⟨m, n, rfl, rfl, h⟩
  · rfl
  · have hparts : ∀ key ∈ ["x", "y", "blur", "spread", "opacity"], m.get key = n.get key := by
      simp only [List.forall_mem_cons]
      exact ⟨h.get_eq rfl, h.get_eq rfl, h.get_eq rfl, h.get_eq rfl, h.get_eq rfl, nofun⟩
    simp only [shadowToken?, enabled_congr (h.get_eq rfl), shadowText?_congr hparts]

theorem shadowToken?_of_idle {r : Reading} (name : String) {v : Value} (h : Idle r v) : shadowToken? name v = none := by
  cases h with
  | null => rfl
  | off _ hoff => simp only [shadowToken?, enabled_of_off hoff, Bool.false_eq_true, if_false]

theorem shadowTokens_congr {m n : Members} (h : Same documentReading (.object m) (.object n)) :
    shadowTokens m = shadowTokens n := by
  have hfield : Same shadowsReading (m.get "shadows") (n.get "shadows") := h.field rfl
  refine hfield.section?_bind "" rfl fun a b hsame => ?_
  exact congrArg Except.ok (hsame.filterMap_eq shadowToken?_congr shadowToken?_of_idle)

/-! ### Documents -/

theorem compileMembers_congr (schema : ScaleSchema) {m n : Members}
    (h : Same documentReading (.object m) (.object n)) :
    compileMembers rounding schema m = compileMembers rounding schema n := by
  have hborders : flatTokens m "borders" "border" .borders = flatTokens n "borders" "border" .borders :=
    flatTokens_congr (h.field rfl) ..
  have hradius : flatTokens m "radius" "radius" .radius = flatTokens n "radius" "radius" .radius :=
    flatTokens_congr (h.field rfl) ..
  rw [compileMembers, compileMembers, spacingTokens_congr schema h, typographyTokens_congr schema h,
    allColorTokens_congr h, hborders, shadowTokens_congr h, hradius]

theorem compile_congr (schema : ScaleSchema) {doc doc' : Value} (h : Same documentReading doc doc') :
    compile rounding schema doc = compile rounding schema doc' := by
  rcases h.record_cases with rfl | ⟨m, n, rfl, rfl, h⟩
  · rfl
  · exact compileMembers_congr schema h

end DesignKit.TokenDocument
