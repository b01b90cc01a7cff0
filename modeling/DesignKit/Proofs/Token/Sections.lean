import Mathlib.Logic.Relation
import DesignKit.Proofs.Render
import DesignKit.Proofs.Token.Edits

/-! # A document compiles section by section

Each section of a document reads nothing but the member under its own key, so a document compiles to what its
sections compile to when each of them stands alone. What a document compiles to depends on the order of
members only where its entries are walked over. -/

namespace DesignKit

/-- The members under one key. -/
def Members.restrict (m : Members) (key : String) : Members :=
  m.filter (·.1 == key)

theorem Members.get?_restrict (m : Members) (key k : String) :
    (m.restrict key).get? k = if k = key then m.get? k else none := by
  induction m with
  | nil => rw [restrict, List.filter_nil, get?_nil, ite_self]
  | cons e rest ih =>
    obtain ⟨name, v⟩ := e
    rw [restrict, List.filter_cons]
    by_cases hname : name = key
    · rw [if_pos (beq_iff_eq.mpr hname), get?_cons, get?_cons, ← restrict, ih, hname]
      by_cases hk : k = key
      · rw [if_pos hk, if_pos hk, if_pos hk]
      · rw [if_neg hk, if_neg hk, if_neg hk]
    · rw [if_neg (mt beq_iff_eq.mp hname), get?_cons, ← restrict, ih]
      by_cases hk : k = key
      · have hne : k ≠ name := fun h => hname (h.symm.trans hk)
        rw [if_pos hk, if_pos hk, if_neg hne]
      · rw [if_neg hk, if_neg hk]

theorem Members.get_restrict_self (m : Members) (key : String) : (m.restrict key).get key = m.get key := by
  rw [get, get, get?_restrict, if_pos rfl]

theorem Members.get_restrict_ne (m : Members) {key k : String} (h : k ≠ key) : (m.restrict key).get k = .null := by
  rw [get, get?_restrict, if_neg h]
  rfl

namespace TokenDocument
open Reading

/-! ### Sections -/

/-- A part of a document that compiles on its own: it depends on the member under its key alone, and there is
nothing to it when that is absent. -/
structure Section where
  key : String
  compile : Members → Except Fault (List Token)
  compile_congr : ∀ {m n : Members}, m.get key = n.get key → compile m = compile n
  compile_absent : ∀ {m : Members}, m.get key = .null → compile m = .ok []

namespace Section

/-- What starts with the object under a key and does nothing without one is a section. -/
def under (key : String) (compile : Members → Except Fault (List Token)) (k : Option Members → Except Fault (List Token))
    (hcompile : ∀ m, compile m = section? m key "" >>= k) (hnone : k none = .ok []) : Section where
  key := key
  compile := compile
  compile_congr {m n} h := by
    have hsection : section? m key "" = section? n key "" := by rw [section?, section?, h]
    rw [hcompile, hcompile, hsection]
  compile_absent {m} h := by
    have hsection : section? m key "" = .ok none := by rw [section?, h]
    rw [hcompile, hsection]
    exact hnone

theorem compile_restrict (s : Section) (m : Members) : s.compile (m.restrict s.key) = s.compile m :=
  s.compile_congr (m.get_restrict_self s.key)

/-- The tokens of sections, one after the other. -/
def compileAll (ss : List Section) (m : Members) : Except Fault (List Token) :=
  List.flatten <$> ss.mapM (·.compile m)

theorem compileAll_cons (s : Section) (ss : List Section) (m : Members) :
    compileAll (s :: ss) m = do return (← s.compile m) ++ (← compileAll ss m) := by
  simp only [compileAll, List.mapM_cons, map_eq_pure_bind, bind_assoc, pure_bind, List.flatten_cons]

theorem compileAll_of_not_mem {ss : List Section} {key : String} (h : key ∉ ss.map (·.key)) (m : Members) :
    compileAll ss (m.restrict key) = .ok [] := by
  induction ss with
  | nil => rfl
  | cons s rest ih =>
    rw [List.map_cons, List.mem_cons, not_or] at h
    have habsent : s.compile (m.restrict key) = .ok [] := s.compile_absent (m.get_restrict_ne (Ne.symm h.1))
    rw [compileAll_cons, habsent, ih h.2]
    rfl

/-- In a document that is left with one section no other compiles to anything. -/
theorem compileAll_restrict {ss : List Section} (hkeys : (ss.map (·.key)).Nodup) {s : Section} (hs : s ∈ ss)
    (m : Members) : compileAll ss (m.restrict s.key) = s.compile m := by
  induction ss with
  | nil => cases hs
  | cons t rest ih =>
    obtain ⟨hnot, hrest⟩ := List.nodup_cons.mp hkeys
    rw [compileAll_cons]
    rcases List.mem_cons.mp hs with rfl | hs
    · -- The section comes first: those after it have other keys.
      rw [compile_restrict, compileAll_of_not_mem hnot]
      cases s.compile m with
      | error fault => rfl
      | ok tokens => exact congrArg Except.ok (List.append_nil tokens)
    · have hne : t.key ≠ s.key := fun h => hnot (List.mem_map.mpr ⟨s, hs, h.symm⟩)
      rw [t.compile_absent (m.get_restrict_ne hne), ih hrest hs]
      cases s.compile m <;> rfl

end Section

def spacingSection (schema : ScaleSchema) : Section :=
  .under "spacing" (spacingTokens schema) _ (fun _ => rfl) rfl

def typographySection (schema : ScaleSchema) : Section :=
  .under "typography" (typographyTokens schema) _ (fun _ => rfl) rfl

def colorSection (rounding : Color.Rounding) : Section :=
  .under "color" (allColorTokens rounding) _ (fun _ => rfl) rfl

def bordersSection : Section :=
  .under "borders" (flatTokens · "borders" "border" .borders) _ (fun _ => rfl) rfl

def shadowsSection : Section :=
  .under "shadows" shadowTokens _ (fun _ => rfl) rfl

def radiusSection : Section :=
  .under "radius" (flatTokens · "radius" "radius" .radius) _ (fun _ => rfl) rfl

/-- The sections of a document, in the order of their tokens. -/
def sections (rounding : Color.Rounding) (schema : ScaleSchema) : List Section :=
  [spacingSection schema, typographySection schema, colorSection rounding, bordersSection, shadowsSection,
    radiusSection]

def sectionKeys : List String := ["spacing", "typography", "color", "borders", "shadows", "radius"]

theorem keys_sections (rounding : Color.Rounding) (schema : ScaleSchema) :
    (sections rounding schema).map (·.key) = sectionKeys := rfl

variable {rounding : Color.Rounding}

theorem compile_eq_compileAll (schema : ScaleSchema) (m : Members) :
    compile rounding schema (.object m) = Section.compileAll (sections rounding schema) m := by
  have hnil : Section.compileAll [] m = pure [] := rfl
  rw [sections]
  simp only [Section.compileAll_cons, hnil, bind_assoc, pure_bind, List.append_nil]
  simp only [compile, compileMembers, List.append_assoc]
  rfl

/-- A document that is left with one section compiles to the tokens of that. -/
theorem compile_restrict (schema : ScaleSchema) {s : Section} (hs : s ∈ sections rounding schema) (m : Members) :
    compile rounding schema (.object (m.restrict s.key)) = s.compile m := by
  have hkeys : ((sections rounding schema).map (·.key)).Nodup := by
    rw [keys_sections]
    decide
  rw [compile_eq_compileAll, Section.compileAll_restrict hkeys hs]

/-- A document compiles like its members, each alone under its key. -/
theorem compile_eq_mapM (schema : ScaleSchema) (m : Members) :
    compile rounding schema (.object m) =
      List.flatten <$> sectionKeys.mapM fun key => compile rounding schema (.object (m.restrict key)) := by
  have halone : (sections rounding schema).map (fun s => compile rounding schema (.object (m.restrict s.key))) =
      (sections rounding schema).map (·.compile m) := List.map_congr_left fun s hs => compile_restrict schema hs m
  have hmapM := congrArg (List.mapM id) halone
  rw [List.mapM_map, List.mapM_map] at hmapM
  rw [compile_eq_compileAll, ← keys_sections rounding schema, List.mapM_map]
  exact congrArg _ hmapM.symm

/-- A document fails as the first of its members that fails alone. -/
theorem compile_eq_error (schema : ScaleSchema) (m : Members) (fault : Fault) :
    compile rounding schema (.object m) = .error fault ↔
      ∃ before key after, sectionKeys = before ++ key :: after ∧
        (∀ k ∈ before, ∃ tokens, compile rounding schema (.object (m.restrict k)) = .ok tokens) ∧
        compile rounding schema (.object (m.restrict key)) = .error fault := by
  rw [compile_eq_mapM, ← except_mapM_eq_error]
  cases sectionKeys.mapM fun key => compile rounding schema (.object (m.restrict key)) with
  | error fault' =>
    constructor
    · intro h
      cases h
      rfl
    · intro h
      cases h
      rfl
  | ok tables => exact ⟨nofun, nofun⟩

/-! ### Order -/

/-- Any number of edits that a compilation does not see change nothing, whichever way they are made. -/
theorem compile_edits (schema : ScaleSchema) {doc doc' : Value} (h : Relation.EqvGen (Edit documentReading) doc doc') :
    compile rounding schema doc = compile rounding schema doc' := by
  induction h with
  | rel v w h => exact compile_congr schema h.same
  | refl v => rfl
  | symm v w _ ih => exact ih.symm
  | trans u v w _ _ ihuv ihvw => exact ihuv.trans ihvw

/-- A color section with one color. -/
def paletteOf (name : String) : Value :=
  .object [("colors", .object [(name, .text "#000")])]

/-- The entry of a flat size. -/
def sizeOf (n : Int) : Value :=
  .object [("value", .int n)]

/-- The entry of a shadow whose numbers are all the same. -/
def shadowOf (n : Int) : Value :=
  .object (["x", "y", "blur", "spread", "opacity"].map (·, .int n))

/-- The objects that are walked over, each in the document around it. -/
def orderedPlaces : List (Value → Value) :=
  [fun v => .object [("color", .object [("sections", v)])],
    fun v => .object [("color", .object [("sections", .object [("brand", .object [("colors", v)])])])],
    fun v => .object [("color", .object [("hues", v), ("sections", .list [paletteOf "ink"])])],
    fun v => .object [("shadows", v)],
    fun v => .object [("borders", .object [("sizes", v)])],
    fun v => .object [("radius", .object [("sizes", v)])]]

/-- A compilation sees the order of members at a place. -/
def OrderCounts (rounding : Color.Rounding) (schema : ScaleSchema) (place : Value → Value) : Prop :=
  ∃ m n : Members, m.keys.Nodup ∧ m.Perm n ∧
    compile rounding schema (place (.object m)) ≠ compile rounding schema (place (.object n))

theorem orderCounts_of_section {schema : ScaleSchema} {s : Section} (hs : s ∈ sections rounding schema)
    {place : Value → Value} {a b : String × Value} (hkeys : a.1 ≠ b.1)
    (h : (s.compile [(s.key, place (.object [a, b]))]).toOption ≠
      (s.compile [(s.key, place (.object [b, a]))]).toOption) :
    OrderCounts rounding schema fun v => .object [(s.key, place v)] := by
  have halone : ∀ v, compile rounding schema (.object [(s.key, v)]) = s.compile [(s.key, v)] := by
    intro v
    have hrestrict : Members.restrict [(s.key, v)] s.key = [(s.key, v)] :=
      List.filter_cons_of_pos (beq_self_eq_true s.key)
    rw [← compile_restrict schema hs, hrestrict]
  refine ⟨[a, b], [b, a], ?_, List.Perm.swap b a [], ?_⟩
  · simp only [Members.keys, List.map_cons, List.map_nil, List.nodup_cons, List.mem_singleton]
    exact ⟨hkeys, List.not_mem_nil, List.nodup_nil⟩
  · rw [halone, halone]
    exact fun heq => h (congrArg Except.toOption heq)

/-- The order of members counts in all objects that are walked over. -/
theorem orderCounts_of_mem (rounding : Color.Rounding) (schema : ScaleSchema) :
    ∀ place ∈ orderedPlaces, OrderCounts rounding schema place := by
  have hcolor : colorSection rounding ∈ sections rounding schema := by simp [sections]
  have hborders : bordersSection ∈ sections rounding schema := by simp [sections]
  have hshadows : shadowsSection ∈ sections rounding schema := by simp [sections]
  have hradius : radiusSection ∈ sections rounding schema := by simp [sections]
  simp only [orderedPlaces, List.forall_mem_cons]
  refine ⟨?sections, ?colors, ?hues, ?shadows, ?borders, ?radius, nofun⟩
  case sections =>
    exact @orderCounts_of_section _ _ _ hcolor _ ("brand", paletteOf "ink") ("other", paletteOf "sky") (by decide)
      (by cases rounding <;> decide +kernel)
  case colors =>
    exact @orderCounts_of_section _ _ _ hcolor _ ("ink", .text "#000") ("sky", .text "#000") (by decide)
      (by cases rounding <;> decide +kernel)
  case hues =>
    exact @orderCounts_of_section _ _ _ hcolor _ ("dark", .int 0) ("light", .int 100) (by decide)
      (by cases rounding <;> decide +kernel)
  case shadows =>
    exact @orderCounts_of_section _ _ _ hshadows _ ("sm", shadowOf 1) ("lg", shadowOf 2) (by decide) (by decide +kernel)
  case borders =>
    exact @orderCounts_of_section _ _ _ hborders _ ("sm", sizeOf 1) ("lg", sizeOf 2) (by decide) (by decide +kernel)
  case radius =>
    exact @orderCounts_of_section _ _ _ hradius _ ("sm", sizeOf 1) ("lg", sizeOf 2) (by decide) (by decide +kernel)

/-! ### Documents -/

/-- A document compiles to what its sections compile to alone, one after the other, and fails as the first of
them that fails. It may be edited wherever its reading does not see it; where members are walked over their
order counts. -/
theorem compile_by_sections (rounding : Color.Rounding) (schema : ScaleSchema) :
    (∀ m : Members, compile rounding schema (.object m) =
      List.flatten <$> sectionKeys.mapM fun key => compile rounding schema (.object (m.restrict key))) ∧
    (∀ (m : Members) (fault : Fault), compile rounding schema (.object m) = .error fault ↔
      ∃ before key after, sectionKeys = before ++ key :: after ∧
        (∀ k ∈ before, ∃ tokens, compile rounding schema (.object (m.restrict k)) = .ok tokens) ∧
        compile rounding schema (.object (m.restrict key)) = .error fault) ∧
    (∀ doc doc' : Value, Relation.EqvGen (Edit documentReading) doc doc' →
      compile rounding schema doc = compile rounding schema doc') ∧
    ∀ place ∈ orderedPlaces, OrderCounts rounding schema place :=
  ⟨compile_eq_mapM schema, compile_eq_error schema, fun _ _ => compile_edits schema, orderCounts_of_mem rounding schema⟩

def bordersOf (entry : Members) : Value :=
  .object [("sizes", .object [("thin", .object entry)])]

def radiusOf (entry : Members) : Value :=
  .object [("sizes", .object [("sm", .object entry)])]

/-- A document with a border and a radius. -/
def tidyDocument : Value :=
  .object [("borders", bordersOf [("value", .int 1)]), ("radius", radiusOf [("enabled", .bool true), ("value", .int 4)])]

/-- The same with its members in another order and a note in it. -/
def shuffledDocument : Value :=
  .object [("radius", radiusOf [("value", .int 4), ("enabled", .bool true)]), ("note", .text "draft"),
    ("borders", bordersOf [("value", .int 1)])]

theorem compile_by_sections_shuffled :
    (Relation.EqvGen (Edit documentReading) tidyDocument shuffledDocument ∧
      compile .oneByOne .standard tidyDocument = compile .oneByOne .standard shuffledDocument ∧
      compile .oneByOne .standard shuffledDocument =
        .ok [⟨"--border-thin", Category.borders.name, "1px"⟩, ⟨"--radius-sm", Category.radius.name, "4px"⟩]) ∧
    compile .oneByOne .standard (.object [("shadows", .int 3), ("color", .object [("sections", .int 5)])]) =
      .error (fault .notSections) := by
  obtain ⟨-, herror, hedits, -⟩ := compile_by_sections .oneByOne .standard
  have hroot : Edit documentReading tidyDocument
      (.object [("radius", radiusOf [("enabled", .bool true), ("value", .int 4)]),
        ("borders", bordersOf [("value", .int 1)])]) :=
    .reorder (by decide) (List.Perm.swap _ _ [])
  have hentry : Edit flatReading (radiusOf [("enabled", .bool true), ("value", .int 4)])
      (radiusOf [("value", .int 4), ("enabled", .bool true)]) := by
    refine @Edit.member _ [] [] "sizes" _ _ _ rfl ?_
    exact @Edit.entry _ [] [] "sm" _ _ (.reorder (by decide) (List.Perm.swap _ _ []))
  have hradius : Edit documentReading
      (.object [("radius", radiusOf [("enabled", .bool true), ("value", .int 4)]),
        ("borders", bordersOf [("value", .int 1)])])
      (.object [("radius", radiusOf [("value", .int 4), ("enabled", .bool true)]),
        ("borders", bordersOf [("value", .int 1)])]) :=
    @Edit.member _ [] [_] "radius" _ _ _ rfl hentry
  have hnote : Edit documentReading
      (.object [("radius", radiusOf [("value", .int 4), ("enabled", .bool true)]),
        ("borders", bordersOf [("value", .int 1)])]) shuffledDocument :=
    @Edit.extend _ [_] [_] "note" _ (by decide)
  have hshuffle : Relation.EqvGen (Edit documentReading) tidyDocument shuffledDocument :=
    .trans _ _ _ (.rel _ _ hroot) (.trans _ _ _ (.rel _ _ hradius) (.rel _ _ hnote))
  refine ⟨⟨hshuffle, hedits _ _ hshuffle, rfl⟩, (herror _ _).mpr ?_⟩
  -- Neither spacing nor typography fails; the shadows, which fail too, come after the colors.
  refine ⟨["spacing", "typography"], "color", ["borders", "shadows", "radius"], rfl, ?_, rfl⟩
  simp only [List.forall_mem_cons]
  exact ⟨⟨[], rfl⟩, ⟨[], rfl⟩, nofun⟩

/-- A value is printed as it is: the order of an object that stands where a number is due shows in the table. -/
theorem compile_value_order :
    compile .oneByOne .standard (.object [("radius", radiusOf [("value", .object [("a", .int 1), ("b", .int 2)])])]) =
      .ok [⟨"--radius-sm", Category.radius.name, "\x7b'a': 1, 'b': 2\x7dpx"⟩] ∧
    compile .oneByOne .standard (.object [("radius", radiusOf [("value", .object [("b", .int 2), ("a", .int 1)])])]) =
      .ok [⟨"--radius-sm", Category.radius.name, "\x7b'b': 2, 'a': 1\x7dpx"⟩] ∧
    OrderCounts .oneByOne .standard fun v => .object [("radius", radiusOf [("value", v)])] := by
  refine ⟨rfl, rfl, ?_⟩
  have hradius : radiusSection ∈ sections .oneByOne .standard := by simp [sections]
  exact @orderCounts_of_section _ _ _ hradius (fun v => radiusOf [("value", v)]) ("a", .int 1) ("b", .int 2) (by decide)
    (by decide +kernel)

end TokenDocument
end DesignKit
