import DesignKit.Proofs.Color
import DesignKit.Proofs.DistinctKeys
import DesignKit.Proofs.Token.Lookup
import DesignKit.Proofs.Token.Strain

/-! # The names of tokens

The tokens of a section have names that begin alike and end in the names of its entries, and no two sections
begin alike. So a name occurs twice in a table only where colors are involved, which are named as the document
says: two palettes may define one color, and a color may be called like a shade of another or like a token of
another section. -/

namespace DesignKit

/-- Tokens named by a common start and then by endings of which none occurs twice. -/
def Under (start : String) (tokens : List Token) : Prop :=
  ∃ endings : List String, endings.Nodup ∧ (tokens.map (·.name)).Sublist (endings.map (start ++ ·))

namespace Under
variable {start : String} {tokens : List Token}

theorem nil : Under start [] :=
  ⟨[], List.nodup_nil, .slnil⟩

theorem nodup (h : Under start tokens) : (tokens.map (·.name)).Nodup := by
  obtain ⟨endings, hnodup, hsub⟩ := h
  have hmap : (endings.map (start ++ ·)).Nodup :=
    List.pairwise_map.mpr (hnodup.imp fun hne heq => hne ((String.append_right_inj start).mp heq))
  exact hsub.nodup hmap

theorem starts (h : Under start tokens) {token : Token} (ht : token ∈ tokens) :
    start.toList <+: token.name.toList := by
  obtain ⟨endings, -, hsub⟩ := h
  obtain ⟨ending, -, heq⟩ := List.mem_map.mp (hsub.subset (List.mem_map_of_mem ht))
  exact ⟨ending.toList, by rw [← heq, String.toList_append]⟩

/-- Entries give tokens under their keys, and an object has each key once. -/
theorem filterMap {f : String → Value → Option Token}
    (hname : ∀ {key v token}, f key v = some token → token.name = start ++ key) {entries : Members}
    (h : entries.keys.Nodup) : Under start (entries.filterMap fun e => f e.1 e.2) := by
  refine ⟨entries.keys, h, ?_⟩
  clear h
  induction entries with
  | nil => exact .slnil
  | cons entry rest ih =>
    obtain ⟨key, v⟩ := entry
    cases hf : f key v with
    | none =>
      simp only [List.filterMap_cons, hf]
      exact ih.cons _
    | some token =>
      simp only [List.filterMap_cons, hf, List.map_cons, hname hf]
      exact ih.cons_cons _

end Under

/-- Neither of two starts begins with the other. -/
def areApart (start start' : String) : Bool :=
  !start.toList.isPrefixOf start'.toList && !start'.toList.isPrefixOf start.toList

theorem name_ne_of_areApart {start start' : String} (h : areApart start start' = true) {tokens tokens' : List Token}
    (ht : Under start tokens) (ht' : Under start' tokens') {a b : Token} (ha : a ∈ tokens) (hb : b ∈ tokens') :
    a.name ≠ b.name := by
  intro heq
  have hs := ht.starts ha
  have hs' := ht'.starts hb
  rw [← heq] at hs'
  simp only [areApart, Bool.and_eq_true, Bool.not_eq_true', ← Bool.not_eq_true, List.isPrefixOf_iff_prefix] at h
  rcases Nat.le_total start.toList.length start'.toList.length with hle | hle
  · exact h.1 (List.prefix_of_prefix_length_le hs hs' hle)
  · exact h.2 (List.prefix_of_prefix_length_le hs' hs hle)

/-- Sections that begin differently share no name. -/
theorem nodup_names_sections {sections : List (String × List Token)} (hunder : ∀ s ∈ sections, Under s.1 s.2)
    (hapart : (sections.map (·.1)).Pairwise fun start start' => areApart start start' = true) :
    ((sections.flatMap (·.2)).map (·.name)).Nodup := by
  induction sections with
  | nil => exact List.nodup_nil
  | cons s rest ih =>
    obtain ⟨hs, hrest⟩ := List.pairwise_cons.mp hapart
    rw [List.flatMap_cons, List.map_append, List.nodup_append]
    refine ⟨(hunder s List.mem_cons_self).nodup, ih (fun s' h => hunder s' (List.mem_cons_of_mem _ h)) hrest, ?_⟩
    intro name hname name' hname' heq
    obtain ⟨a, ha, rfl⟩ := List.mem_map.mp hname
    obtain ⟨b, hb, rfl⟩ := List.mem_map.mp hname'
    obtain ⟨s', hs', hb⟩ := List.mem_flatMap.mp hb
    have hapart' : areApart s.1 s'.1 = true := hs s'.1 (List.mem_map_of_mem hs')
    have hunder' : Under s'.1 s'.2 := hunder s' (List.mem_cons_of_mem _ hs')
    exact name_ne_of_areApart hapart' (hunder s List.mem_cons_self) hunder' ha hb heq

namespace TokenDocument
variable {rounding : Color.Rounding}

theorem distinctKeys_inner {m : Members} (h : (Value.object m).DistinctKeys) (key : String) :
    (Value.object (inner m key)).DistinctKeys := by
  have hv := h.get key
  unfold inner
  cases hm : m.get key with
  | object found =>
    rw [hm] at hv
    exact hv
  | _ => exact .object List.nodup_nil nofun

/-- What is done with a section gives no tokens, or those of an object. -/
theorem of_section {m : Members} {key place : String} {k : Option Members → Except Fault (List Token)}
    {tokens : List Token} {P : List Token → Prop} (h : section? m key place >>= k = .ok tokens)
    (hnone : k none = .ok []) (hnil : P []) (hsome : ∀ data, k (some data) = .ok tokens → P tokens) : P tokens := by
  obtain ⟨found, -, h⟩ := except_bind_eq_ok.mp h
  cases found with
  | none =>
    rw [hnone] at h
    cases h
    exact hnil
  | some data => exact hsome data h

/-! ### Sections of flat entries -/

theorem flatTokens_eq {doc : Members} {key start : String} {category : Category} {tokens : List Token}
    (h : flatTokens doc key start category = .ok tokens) :
    tokens = (inner (inner doc key) "sizes").filterMap fun (name, entry) => sizeToken? start category name entry := by
  obtain ⟨found, hfound, h⟩ := except_bind_eq_ok.mp h
  rw [section?_eq_ok hfound] at h
  unfold inner
  cases hm : (doc.get key).members? with
  | none =>
    rw [hm] at h
    cases h
    rfl
  | some data =>
    rw [hm] at h
    obtain ⟨sizes, hsizes, h⟩ := except_bind_eq_ok.mp h
    cases h
    rw [section?_eq_ok hsizes]
    rfl

theorem shadowTokens_eq {doc : Members} {tokens : List Token} (h : shadowTokens doc = .ok tokens) :
    tokens = (inner doc "shadows").filterMap fun (name, entry) => shadowToken? name entry := by
  obtain ⟨found, hfound, h⟩ := except_bind_eq_ok.mp h
  cases h
  rw [section?_eq_ok hfound]
  rfl

theorem name_sizeToken? {start : String} {category : Category} {name : String} {entry : Value} {token : Token}
    (h : sizeToken? start category name entry = some token) : token.name = "--" ++ start ++ "-" ++ name := by
  unfold sizeToken? at h
  split at h
  · split at h
    · cases h
    · cases h
      rfl
  · cases h

theorem name_shadowToken? {name : String} {entry : Value} {token : Token} (h : shadowToken? name entry = some token) :
    token.name = "--shadow-" ++ name := by
  unfold shadowToken? at h
  split at h
  · split at h
    · obtain ⟨text, -, rfl⟩ := Option.map_eq_some_iff.mp h
      rfl
    · cases h
  · cases h

theorem under_flatTokens {doc : Members} (hdoc : (Value.object doc).DistinctKeys) {key start : String}
    {category : Category} {tokens : List Token} (h : flatTokens doc key start category = .ok tokens) :
    Under ("--" ++ start ++ "-") tokens := by
  rw [flatTokens_eq h]
  exact .filterMap (f := sizeToken? start category) name_sizeToken? (distinctKeys_inner (distinctKeys_inner hdoc key) "sizes").keys

theorem under_shadowTokens {doc : Members} (hdoc : (Value.object doc).DistinctKeys) {tokens : List Token}
    (h : shadowTokens doc = .ok tokens) : Under "--shadow-" tokens := by
  rw [shadowTokens_eq h]
  exact .filterMap (f := shadowToken?) name_shadowToken? (distinctKeys_inner hdoc "shadows").keys

/-! ### Sections with a scale -/

theorem under_scaleTokens {data : Members} {place : String} {default : Scale} {positions : List ScalePosition}
    {start : String} {category : Category} {digits : Int} {tokens : List Token}
    (hpositions : (positions.map (·.name)).Nodup)
    (h : scaleTokens data place default positions start category digits = .ok tokens) :
    Under ("--" ++ start) tokens := by
  obtain ⟨scale, -, h⟩ := except_bind_eq_ok.mp h
  obtain ⟨overrides, -, h⟩ := except_bind_eq_ok.mp h
  obtain ⟨values, -, h⟩ := except_bind_eq_ok.mp h
  cases h
  refine ⟨positions.map (·.name), hpositions, ?_⟩
  rw [List.map_map, List.map_map]
  exact List.Sublist.refl _

theorem under_spacingTokens {schema : ScaleSchema} (hschema : (schema.spacing.map (·.name)).Nodup) {doc : Members}
    {tokens : List Token} (h : spacingTokens schema doc = .ok tokens) : Under "--space-" tokens :=
  of_section h rfl .nil fun _ => under_scaleTokens hschema

theorem under_textTokens {schema : ScaleSchema} (hschema : (schema.text.map (·.name)).Nodup) {typography : Members}
    {tokens : List Token} (h : textTokens schema typography = .ok tokens) : Under "--text-" tokens :=
  of_section h rfl .nil fun _ => under_scaleTokens hschema

/-- The names that the tokens of a heading may have. -/
def headingNames (p : ScalePosition) : List String :=
  ("--" ++ headingKey p) :: headingExtras.map fun (_, suffix, _) => "--" ++ headingKey p ++ "-" ++ suffix

theorem names_extraTokens (key : String) (entry : Value) :
    ((extraTokens key entry).map (·.name)).Sublist (headingExtras.map fun (_, suffix, _) => "--" ++ key ++ "-" ++ suffix) := by
  unfold extraTokens
  cases entry.members? with
  | none => exact List.nil_sublist _
  | some m =>
    simp only
    generalize headingExtras = extras
    induction extras with
    | nil => exact .slnil
    | cons extra rest ih =>
      obtain ⟨member, suffix, unit⟩ := extra
      rw [List.filterMap_cons]
      split
      · exact ih.cons _
      · rename_i token htoken
        split at htoken
        · cases htoken
        · cases htoken
          exact ih.cons_cons _

theorem names_headingTokens {schema : ScaleSchema} {typography : Members} {tokens : List Token}
    (h : headingTokens schema typography = .ok tokens) :
    (tokens.map (·.name)).Sublist (schema.headings.flatMap headingNames) := by
  refine of_section (P := fun tokens => (tokens.map (·.name)).Sublist _) h rfl (List.nil_sublist _) fun data h => ?_
  obtain ⟨scale, -, h⟩ := except_bind_eq_ok.mp h
  obtain ⟨overrides, -, h⟩ := except_bind_eq_ok.mp h
  obtain ⟨values, -, h⟩ := except_bind_eq_ok.mp h
  cases h
  generalize schema.headings = positions
  induction positions with
  | nil => exact .slnil
  | cons p rest ih =>
    rw [List.flatMap_cons, List.flatMap_cons, List.map_append]
    exact ((names_extraTokens (headingKey p) _).cons_cons _).append ih

/-- What follows the common start in the names of the standard headings. -/
def headingEndings : List String :=
  ["1", "2", "3", "4", "5", "6"].flatMap fun level =>
    level :: headingExtras.map fun (_, suffix, _) => level ++ "-" ++ suffix

theorem under_headingTokens {typography : Members} {tokens : List Token}
    (h : headingTokens .standard typography = .ok tokens) : Under "--heading-" tokens :=
  ⟨headingEndings, by decide, names_headingTokens h⟩

/-! ### Colors -/

theorem colorTokens_eq {hues : Members} {name : String} {color : Value} {tokens : List Token}
    (h : colorTokens rounding hues name color = .ok tokens) :
    ∃ shades, Color.shades rounding color.print hues = .ok shades ∧
      tokens = ⟨"--" ++ name, Category.colors.name, color.print⟩ ::
        shades.map fun (hue, shade) => ⟨"--" ++ name ++ "-" ++ hue, Category.colors.name, shade⟩ := by
  unfold colorTokens at h
  simp only at h
  split at h
  case isTrue hempty =>
    cases h
    rw [List.isEmpty_iff.mp hempty]
    exact ⟨[], Color.shades_nil _, rfl⟩
  case isFalse =>
    obtain ⟨shades, hshades, h⟩ := except_bind_eq_ok.mp h
    cases h
    exact ⟨shades, hshades, rfl⟩

theorem category_colorTokens {hues : Members} {name : String} {color : Value} {tokens : List Token}
    (h : colorTokens rounding hues name color = .ok tokens) :
    ∀ token ∈ tokens, token.category = Category.colors.name := by
  obtain ⟨shades, -, rfl⟩ := colorTokens_eq h
  refine List.forall_mem_cons.mpr ⟨rfl, fun token ht => ?_⟩
  obtain ⟨shade, -, rfl⟩ := List.mem_map.mp ht
  rfl

theorem category_paletteTokens {hues colors : Members} {tokens : List Token}
    (h : paletteTokens rounding hues colors = .ok tokens) :
    ∀ token ∈ tokens, token.category = Category.colors.name := by
  induction colors generalizing tokens with
  | nil =>
    cases h
    exact nofun
  | cons entry rest ih =>
    obtain ⟨name, entry⟩ := entry
    unfold paletteTokens at h
    cases hc : colorOf? entry with
    | none =>
      rw [hc] at h
      obtain ⟨first, hfirst, h⟩ := except_bind_eq_ok.mp h
      obtain ⟨others, hothers, h⟩ := except_bind_eq_ok.mp h
      cases hfirst
      cases h
      exact ih hothers
    | some color =>
      rw [hc] at h
      obtain ⟨first, hfirst, h⟩ := except_bind_eq_ok.mp h
      obtain ⟨others, hothers, h⟩ := except_bind_eq_ok.mp h
      cases h
      exact List.forall_mem_append.mpr ⟨category_colorTokens hfirst, ih hothers⟩

theorem category_sectionTokens {hues : Members} {sections : List Members} {tokens : List Token}
    (h : sectionTokens rounding hues sections = .ok tokens) :
    ∀ token ∈ tokens, token.category = Category.colors.name := by
  induction sections generalizing tokens with
  | nil =>
    cases h
    exact nofun
  | cons data rest ih =>
    obtain ⟨found, -, h⟩ := except_bind_eq_ok.mp h
    obtain ⟨first, hfirst, h⟩ := except_bind_eq_ok.mp h
    obtain ⟨others, hothers, h⟩ := except_bind_eq_ok.mp h
    cases h
    exact List.forall_mem_append.mpr ⟨category_paletteTokens hfirst, ih hothers⟩

theorem category_allColorTokens {doc : Members} {tokens : List Token} (h : allColorTokens rounding doc = .ok tokens) :
    ∀ token ∈ tokens, token.category = Category.colors.name := by
  refine of_section (P := (∀ token ∈ ·, token.category = Category.colors.name)) h rfl nofun fun color h => ?_
  obtain ⟨hues, -, h⟩ := except_bind_eq_ok.mp h
  obtain ⟨active, -, h⟩ := except_bind_eq_ok.mp h
  obtain ⟨sections, -, h⟩ := except_bind_eq_ok.mp h
  exact category_sectionTokens h

/-! ### Documents -/

/-- The token is no color. -/
def isPlain (token : Token) : Bool :=
  token.category != Category.colors.name

/-- The tokens of a document that are no colors have names of their own. -/
theorem nodup_names_plain {doc : Members} (hdoc : (Value.object doc).DistinctKeys) {table : Table}
    (h : compileMembers rounding .standard doc = .ok table) : ((table.filter isPlain).map (·.name)).Nodup := by
  obtain ⟨spacing, hspacing, h⟩ := except_bind_eq_ok.mp h
  obtain ⟨typography, htypography, h⟩ := except_bind_eq_ok.mp h
  obtain ⟨colors, hcolors, h⟩ := except_bind_eq_ok.mp h
  obtain ⟨borders, hborders, h⟩ := except_bind_eq_ok.mp h
  obtain ⟨shadows, hshadows, h⟩ := except_bind_eq_ok.mp h
  obtain ⟨radius, hradius, h⟩ := except_bind_eq_ok.mp h
  cases h
  obtain ⟨found, -, h⟩ := except_bind_eq_ok.mp htypography
  obtain ⟨text, htext, h⟩ := except_bind_eq_ok.mp h
  obtain ⟨headings, hheadings, h⟩ := except_bind_eq_ok.mp h
  cases h
  let sections : List (String × List Token) :=
    [("--space-", spacing), ("--text-", text), ("--heading-", headings), ("--border-", borders),
      ("--shadow-", shadows), ("--radius-", radius)]
  have hunder : ∀ s ∈ sections, Under s.1 s.2 := by
    simp only [sections, List.forall_mem_cons]
    exact ⟨under_spacingTokens (by decide) hspacing, under_textTokens (by decide) htext, under_headingTokens hheadings,
      under_flatTokens hdoc hborders, under_shadowTokens hdoc hshadows, under_flatTokens hdoc hradius, nofun⟩
  have hapart : (sections.map (·.1)).Pairwise fun start start' => areApart start start' = true := by
    show List.Pairwise _ ["--space-", "--text-", "--heading-", "--border-", "--shadow-", "--radius-"]
    decide
  have hnone : colors.filter isPlain = [] := by
    refine List.filter_eq_nil_iff.mpr fun token ht => ?_
    simp [isPlain, category_allColorTokens hcolors token ht]
  have hplain : (spacing ++ (text ++ headings) ++ colors ++ borders ++ shadows ++ radius).filter isPlain =
      (sections.flatMap (·.2)).filter isPlain := by
    simp [sections, hnone]
  rw [hplain]
  exact (List.filter_sublist.map _).nodup (nodup_names_sections hunder hapart)

/-- Two tokens of a table that have one name are not both other tokens than colors, so the other tokens have
names of their own, and the stylesheet of a table without colors declares no variable twice. -/
theorem names_of_compile {doc : Value} (hdoc : doc.DistinctKeys) {table : Table}
    (h : compile rounding .standard doc = .ok table) :
    (∀ (i j : Nat) (hi : i < table.length) (hj : j < table.length), i ≠ j → table[i].name = table[j].name →
      table[i].category = Category.colors.name ∨ table[j].category = Category.colors.name) ∧
    ((table.filter isPlain).map (·.name)).Nodup ∧
    ((∀ token ∈ table, token.category ≠ Category.colors.name) → (table.declarations.map (·.1)).Nodup) := by
  cases doc with
  | object m =>
    have hplain : ((table.filter isPlain).map (·.name)).Nodup := nodup_names_plain hdoc h
    have hpairs : table.Pairwise fun a b => isPlain a = true → isPlain b = true → a.name ≠ b.name :=
      List.pairwise_filter.mp (List.pairwise_map.mp hplain)
    refine ⟨fun i j hi hj hij hname => ?_, hplain, fun hno => ?_⟩
    · by_cases hcolor : table[i].category = Category.colors.name
      · exact Or.inl hcolor
      · refine Or.inr (Decidable.byContradiction fun hcolor' => ?_)
        have hp : isPlain table[i] = true := bne_iff_ne.mpr hcolor
        have hp' : isPlain table[j] = true := bne_iff_ne.mpr hcolor'
        rcases Nat.lt_or_gt_of_ne hij with hlt | hlt
        · exact List.pairwise_iff_getElem.mp hpairs i j hi hj hlt hp hp' hname
        · exact List.pairwise_iff_getElem.mp hpairs j i hj hi hlt hp' hp hname.symm
    · have hall : table.filter isPlain = table :=
        List.filter_eq_self.mpr fun token ht => bne_iff_ne.mpr (hno token ht)
      rw [hall] at hplain
      rw [Table.declarations, List.map_map]
      exact hplain
  | _ => cases h

/-- Two palettes define one color, and one of them a color that is called like a border. -/
def crowded : Value :=
  .object [
    ("color", .object [("sections", .list [
      .object [("colors", .object [("ink", .text "black"), ("border-thin", .text "navy")])],
      .object [("colors", .object [("ink", .text "white")])]])]),
    ("borders", .object [("sizes", .object [("thin", .object [("value", .int 1)]), ("thick", .object [("value", .int 4)])])]),
    ("radius", .object [("sizes", .object [("thin", .object [("value", .int 2)])])])]

def crowdedTable : Table :=
  [⟨"--ink", "Colors", "black"⟩, ⟨"--border-thin", "Colors", "navy"⟩, ⟨"--ink", "Colors", "white"⟩,
    ⟨"--border-thin", "Borders", "1px"⟩, ⟨"--border-thick", "Borders", "4px"⟩, ⟨"--radius-thin", "Radius", "2px"⟩]

theorem distinctKeys_crowded : crowded.DistinctKeys := by
  simp [crowded, Value.DistinctKeys.object_iff, Value.DistinctKeys.list_iff, Members.keys, Value.DistinctKeys.text,
    Value.DistinctKeys.int]

/-- Borders and no colors. -/
def ruled : Value :=
  .object [("borders", .object [("sizes", .object [("thin", .int 0), ("thick", .object [("value", .int 4)])])])]

theorem distinctKeys_ruled : ruled.DistinctKeys := by
  simp [ruled, Value.DistinctKeys.object_iff, Members.keys, Value.DistinctKeys.int]

theorem names_of_compile_crowded :
    compile .oneByOne .standard crowded = .ok crowdedTable ∧ crowdedTable[1].name = crowdedTable[3].name ∧
      (crowdedTable[1].category = Category.colors.name ∨ crowdedTable[3].category = Category.colors.name) ∧
      ((crowdedTable.filter isPlain).map (·.name)).Nodup ∧
      ∃ table, compile .oneByOne .standard ruled = .ok table ∧ (table.declarations.map (·.1)).Nodup := by
  have hcrowded : compile .oneByOne .standard crowded = .ok crowdedTable := by rfl
  have hruled : compile .oneByOne .standard ruled = .ok [⟨"--border-thick", "Borders", "4px"⟩] := by rfl
  have h := names_of_compile distinctKeys_crowded hcrowded
  have h' := names_of_compile distinctKeys_ruled hruled
  exact ⟨hcrowded, rfl, h.1 1 3 (by decide) (by decide) (by decide) rfl, h.2.1, _, hruled, h'.2.2 (by decide)⟩

end TokenDocument
end DesignKit
