import DesignKit.Proofs.Token.Lookup
import DesignKit.Text.Search
import Mathlib.Data.List.Basic

/-! # Reading a stylesheet of tokens back

A stylesheet is read line by line: a selector opens a block, a brace alone on a line closes it, and each line
between them declares a property. A value may look like any of these, yet it stands behind the four blanks and
the property of its line, so it is never taken for one. What a stylesheet was emitted from is read back from
it, as long as its texts stay on their lines and no property holds the separator of property and value. -/

namespace DesignKit.Css

/-- A selector and what is declared under it. -/
structure Block where
  selector : List Char
  declarations : List (String × String)

/-- The texts around the first colon that a blank follows. -/
def cut : List Char → Option (List Char × List Char)
  | [] => none
  | ':' :: ' ' :: rest => some ([], rest)
  | c :: rest => (cut rest).map fun found => (c :: found.1, found.2)

/-- The property and the value of a line. -/
def declaration? (line : List Char) : Option (String × String) := do
  let rest ← "    ".toList.isPrefixOf? line
  let found ← cut (← ";".toList.isSuffixOf? rest)
  return (String.ofList found.1, String.ofList found.2)

/-- The blocks of lines, of which the first may be open already. -/
def blocks : Option Block → List (List Char) → Option (List Block)
  | none, [] => some []
  | some _, [] => none
  | none, line :: rest => do
    let selector ← " \x7b".toList.isSuffixOf? line
    blocks (some ⟨selector, []⟩) rest
  | some b, line :: rest =>
    if line = "\x7d".toList then (blocks none rest).map (b :: ·)
    else do
      let found ← declaration? line
      blocks (some ⟨b.selector, b.declarations ++ [found]⟩) rest

/-- The entry of a colorway that a property declares. -/
def keyValue? (found : String × String) : Option (String × String) :=
  ("--colorway-".toList.isPrefixOf? found.1.toList).map fun key => (String.ofList key, found.2)

/-- The colorway that a block declares. -/
def colorway? (b : Block) : Option Colorway := do
  let rest ← "[data-colorway=\"".toList.isPrefixOf? b.selector
  let name ← "\"]".toList.isSuffixOf? rest
  return ⟨String.ofList name, ← b.declarations.mapM keyValue?⟩

/-- What the root declares, and the colorways. -/
def read (text : String) : Option (List (String × String) × List Colorway) := do
  match ← blocks none (text.toList.splitOn '\n').dropLast with
  | root :: others =>
    if root.selector = ":root".toList then return (root.declarations, ← others.mapM colorway?) else none
  | [] => none

/-! ### What can be read back -/

/-- A text stays on its line. -/
def IsLine (s : String) : Prop :=
  '\n' ∉ s.toList

/-- A text may be a property: it stays on its line and does not hold the separator of property and value. -/
def IsProperty (s : String) : Prop :=
  IsLine s ∧ Text.holds s ": " = false

instance (s : String) : Decidable (IsLine s) :=
  inferInstanceAs (Decidable ('\n' ∉ s.toList))

instance (s : String) : Decidable (IsProperty s) :=
  inferInstanceAs (Decidable (IsLine s ∧ Text.holds s ": " = false))

/-- The texts that a stylesheet is emitted from stay on their lines, and the properties end where they seem to. -/
structure Legible (table : Table) (colorways : List Colorway) : Prop where
  name : ∀ token ∈ table, IsProperty token.name
  value : ∀ token ∈ table, IsLine token.value
  colorway : ∀ c ∈ colorways, IsLine c.name
  key : ∀ c ∈ colorways, ∀ entry ∈ c.values, IsProperty entry.1
  entry : ∀ c ∈ colorways, ∀ entry ∈ c.values, IsLine entry.2

/-! ### Lines -/

theorem cut_append {property : List Char} (h : Text.occursIn [':', ' '] property = false) (value : List Char) :
    cut (property ++ ':' :: ' ' :: value) = some (property, value) := by
  induction property with
  | nil => rfl
  | cons c rest ih =>
    simp only [Text.occursIn, Bool.or_eq_false_iff] at h
    have hrest := ih h.2
    -- A colon at the end of a property is followed by the colon of the separator, not by its blank.
    have hskip : cut (c :: (rest ++ ':' :: ' ' :: value)) =
        (cut (rest ++ ':' :: ' ' :: value)).map fun found => (c :: found.1, found.2) := by
      rw [cut]
      rintro rest' rfl heq
      cases rest with
      | nil => cases heq
      | cons d rest =>
        cases heq
        simp [List.isPrefixOf] at h
    rw [List.cons_append, hskip, hrest]
    rfl

theorem declaration?_declaration {property : String} (h : IsProperty property) (value : String) :
    declaration? (declaration property value).toList = some (property, value) := by
  have hline : (declaration property value).toList =
      "    ".toList ++ ((property.toList ++ ':' :: ' ' :: value.toList) ++ ";".toList) := by
    simp [declaration, String.toList_append]
  have hcut : cut (property.toList ++ ':' :: ' ' :: value.toList) = some (property.toList, value.toList) :=
    cut_append h.2 value.toList
  rw [hline, declaration?, List.isPrefixOf?_eq_some_iff_append_eq.mpr rfl, Option.bind_eq_bind, Option.bind_some,
    List.isSuffixOf?_eq_some_iff_append_eq.mpr rfl, Option.bind_eq_bind, Option.bind_some, hcut]
  simp

theorem declaration_ne_brace (property value : String) : (declaration property value).toList ≠ "\x7d".toList := by
  simp [declaration, String.toList_append]

theorem IsLine.append {s t : String} (hs : IsLine s) (ht : IsLine t) : IsLine (s ++ t) := by
  rw [IsLine, String.toList_append, List.mem_append, not_or]
  exact ⟨hs, ht⟩

theorem isLine_declaration {property value : String} (hproperty : IsLine property) (hvalue : IsLine value) :
    IsLine (declaration property value) :=
  (((IsLine.append (by decide) hproperty).append (by decide)).append hvalue).append (by decide)

/-! ### Blocks -/

/-- The lines of declarations are taken up one by one until the brace closes their block. -/
theorem blocks_declarations (b : Block) {declarations : List (String × String)}
    (h : ∀ d ∈ declarations, IsProperty d.1) (rest : List (List Char)) :
    blocks (some b) (declarations.map (fun d => (declaration d.1 d.2).toList) ++ "\x7d".toList :: rest) =
      (blocks none rest).map (⟨b.selector, b.declarations ++ declarations⟩ :: ·) := by
  induction declarations generalizing b with
  | nil =>
    rw [List.map_nil, List.nil_append, blocks, if_pos rfl, List.append_nil]
  | cons d more ih =>
    have hd := declaration?_declaration (h d List.mem_cons_self) d.2
    rw [List.map_cons, List.cons_append, blocks, if_neg (declaration_ne_brace d.1 d.2), hd, Option.bind_eq_bind,
      Option.bind_some, ih _ fun e he => h e (List.mem_cons_of_mem _ he)]
    simp

theorem blocks_block {selector : String} {declarations : List (String × String)}
    (h : ∀ d ∈ declarations, IsProperty d.1) (rest : List (List Char)) :
    blocks none ((block selector declarations).map String.toList ++ rest) =
      (blocks none rest).map (⟨selector.toList, declarations⟩ :: ·) := by
  have hlines : (block selector declarations).map String.toList ++ rest =
      (selector.toList ++ " \x7b".toList) ::
        (declarations.map (fun d => (declaration d.1 d.2).toList) ++ "\x7d".toList :: rest) := by
    simp [block, String.toList_append, Function.comp_def]
  rw [hlines, blocks, List.isSuffixOf?_eq_some_iff_append_eq.mpr rfl, Option.bind_eq_bind, Option.bind_some,
    blocks_declarations _ h]
  rfl

/-- The blocks of a stylesheet are read in order. -/
theorem blocks_flatMap {sheet : List (String × List (String × String))}
    (h : ∀ b ∈ sheet, ∀ d ∈ b.2, IsProperty d.1) :
    blocks none ((sheet.flatMap fun b => block b.1 b.2).map String.toList) =
      some (sheet.map fun b => ⟨b.1.toList, b.2⟩) := by
  induction sheet with
  | nil => rfl
  | cons b more ih =>
    rw [List.flatMap_cons, List.map_append, blocks_block (h b List.mem_cons_self),
      ih fun b' hb' => h b' (List.mem_cons_of_mem _ hb')]
    rfl

theorem isLine_of_mem_block {selector : String} (hselector : IsLine selector) {declarations : List (String × String)}
    (h : ∀ d ∈ declarations, IsLine d.1 ∧ IsLine d.2) : ∀ line ∈ block selector declarations, IsLine line := by
  intro line hline
  simp only [block, List.cons_append, List.mem_cons, List.mem_append, List.mem_map, List.not_mem_nil, or_false] at hline
  rcases hline with rfl | ⟨d, hd, rfl⟩ | rfl
  · exact hselector.append (by decide)
  · exact isLine_declaration (h d hd).1 (h d hd).2
  · decide

/-! ### Stylesheets -/

/-- The selector of a colorway and what is declared under it. -/
def colorwayBlock (c : Colorway) : String × List (String × String) :=
  ("[data-colorway=\"" ++ c.name ++ "\"]", c.values.map fun entry => ("--colorway-" ++ entry.1, entry.2))

/-- The blocks that a stylesheet is emitted as. -/
def sheetOf (table : Table) (colorways : List Colorway) : List (String × List (String × String)) :=
  (":root", table.declarations) :: colorways.map colorwayBlock

theorem emit_eq (table : Table) (colorways : List Colorway) :
    emit table colorways = joinLines ((sheetOf table colorways).flatMap fun b => block b.1 b.2) := by
  rw [emit, sheetOf, List.flatMap_cons, List.flatMap_map]
  rfl

theorem intercalate_end {lines : List (List Char)} (h : lines ≠ []) :
    ['\n'].intercalate lines ++ ['\n'] = ['\n'].intercalate (lines ++ [[]]) := by
  induction lines with
  | nil => exact absurd rfl h
  | cons line rest ih =>
    cases rest with
    | nil => simp
    | cons next rest =>
      rw [List.intercalate_cons_cons, List.append_assoc, ih (List.cons_ne_nil _ _)]
      exact List.intercalate_cons_cons.symm

/-- Lines that were joined are taken apart again. -/
theorem splitOn_joinLines {lines : List String} (hne : lines ≠ []) (h : ∀ line ∈ lines, IsLine line) :
    (joinLines lines).toList.splitOn '\n' = lines.map String.toList ++ [[]] := by
  have htext : (joinLines lines).toList = ['\n'].intercalate (lines.map String.toList ++ [[]]) := by
    rw [← intercalate_end (by simpa using hne), joinLines, String.toList_append, String.toList_intercalate]
    rfl
  rw [htext]
  refine List.splitOn_intercalate _ (fun l hl => ?_) (by simp)
  rcases List.mem_append.mp hl with hl | hl
  · obtain ⟨line, hline, rfl⟩ := List.mem_map.mp hl
    exact h line hline
  · rw [List.mem_singleton.mp hl]
    exact List.not_mem_nil

theorem keyValue?_colorway (entry : String × String) : keyValue? ("--colorway-" ++ entry.1, entry.2) = some entry := by
  rw [keyValue?, String.toList_append, List.isPrefixOf?_eq_some_iff_append_eq.mpr rfl]
  simp

theorem mapM_keyValue? (values : List (String × String)) :
    (values.map fun entry => ("--colorway-" ++ entry.1, entry.2)).mapM keyValue? = some values := by
  induction values with
  | nil => rfl
  | cons entry rest ih =>
    rw [List.map_cons, List.mapM_cons, keyValue?_colorway, ih]
    rfl

theorem toList_around (start s tail : String) : (start ++ s ++ tail).toList = start.toList ++ (s.toList ++ tail.toList) := by
  rw [String.toList_append, String.toList_append, List.append_assoc]

theorem colorway?_block (c : Colorway) :
    colorway? ⟨(colorwayBlock c).1.toList, (colorwayBlock c).2⟩ = some c := by
  have hselector : (colorwayBlock c).1.toList = "[data-colorway=\"".toList ++ (c.name.toList ++ "\"]".toList) :=
    toList_around _ _ _
  have hentries : (colorwayBlock c).2.mapM keyValue? = some c.values := mapM_keyValue? c.values
  rw [colorway?, hselector, List.isPrefixOf?_eq_some_iff_append_eq.mpr rfl, Option.bind_eq_bind, Option.bind_some,
    List.isSuffixOf?_eq_some_iff_append_eq.mpr rfl, Option.bind_eq_bind, Option.bind_some, hentries]
  simp

theorem colorways_blocks (colorways : List Colorway) :
    ((colorways.map colorwayBlock).map fun b => (⟨b.1.toList, b.2⟩ : Block)).mapM colorway? = some colorways := by
  induction colorways with
  | nil => rfl
  | cons c rest ih =>
    rw [List.map_cons, List.map_cons, List.mapM_cons, colorway?_block, ih]
    rfl

namespace Legible
variable {table : Table} {colorways : List Colorway}

theorem isProperty (h : Legible table colorways) : ∀ b ∈ sheetOf table colorways, ∀ d ∈ b.2, IsProperty d.1 := by
  intro b hb d hd
  rcases List.mem_cons.mp hb with rfl | hb
  · obtain ⟨token, ht, rfl⟩ := List.mem_map.mp hd
    exact h.name token ht
  · obtain ⟨c, hc, rfl⟩ := List.mem_map.mp hb
    obtain ⟨entry, he, rfl⟩ := List.mem_map.mp hd
    obtain ⟨hline, hholds⟩ := h.key c hc entry he
    refine ⟨IsLine.append (by decide) hline, ?_⟩
    · simpa [Text.holds, Text.occursIn, String.toList_append, List.isPrefixOf] using hholds

theorem isLine (h : Legible table colorways) :
    ∀ line ∈ (sheetOf table colorways).flatMap fun b => block b.1 b.2, IsLine line := by
  intro line hline
  obtain ⟨b, hb, hline⟩ := List.mem_flatMap.mp hline
  have hproperty := h.isProperty b hb
  refine isLine_of_mem_block ?_ (fun d hd => ⟨(hproperty d hd).1, ?_⟩) line hline
  · rcases List.mem_cons.mp hb with rfl | hb
    · exact (by decide : IsLine ":root")
    · obtain ⟨c, hc, rfl⟩ := List.mem_map.mp hb
      exact (IsLine.append (by decide) (h.colorway c hc)).append (by decide)
  · rcases List.mem_cons.mp hb with rfl | hb
    · obtain ⟨token, ht, rfl⟩ := List.mem_map.mp hd
      exact h.value token ht
    · obtain ⟨c, hc, rfl⟩ := List.mem_map.mp hb
      obtain ⟨entry, he, rfl⟩ := List.mem_map.mp hd
      exact h.entry c hc entry he

theorem read_emit (h : Legible table colorways) : read (emit table colorways) = some (table.declarations, colorways) := by
  have hne : ((sheetOf table colorways).flatMap fun b => block b.1 b.2) ≠ [] := by
    simp [sheetOf, block]
  have hlines : ((emit table colorways).toList.splitOn '\n').dropLast =
      ((sheetOf table colorways).flatMap fun b => block b.1 b.2).map String.toList := by
    rw [emit_eq, splitOn_joinLines hne h.isLine, List.dropLast_concat]
  have hblocks : (sheetOf table colorways).map (fun b => (⟨b.1.toList, b.2⟩ : Block)) =
      ⟨":root".toList, table.declarations⟩ :: (colorways.map colorwayBlock).map fun b => ⟨b.1.toList, b.2⟩ := rfl
  rw [read, hlines, blocks_flatMap h.isProperty, hblocks, Option.bind_eq_bind, Option.bind_some]
  simp only [if_true]
  rw [colorways_blocks]
  rfl

end Legible

/-- A stylesheet tells what it was emitted from: what the root declares and the colorways, in order, with
those that are empty. So no two of them that differ in any of this are emitted alike. -/
theorem emit_lossless {table : Table} {colorways : List Colorway} (h : Legible table colorways) :
    read (emit table colorways) = some (table.declarations, colorways) ∧
    ∀ (table' : Table) (colorways' : List Colorway), Legible table' colorways' →
      emit table' colorways' = emit table colorways →
        table'.declarations = table.declarations ∧ colorways' = colorways := by
  refine ⟨h.read_emit, fun table' colorways' h' heq => ?_⟩
  have hboth : some (table'.declarations, colorways') = some (table.declarations, colorways) := by
    rw [← h'.read_emit, heq, h.read_emit]
  exact Prod.mk.inj (Option.some.inj hboth)

/-- A property that ends in a colon, values that look like separators and ends of blocks. -/
def tricky (category : String) : Table :=
  [⟨"--ink:", category, " a: b; \x7d"⟩, ⟨"--rule", category, "\x7d"⟩]

/-- A name that looks like the end of a selector, and a colorway without entries. -/
def trickyColorways : List Colorway :=
  [⟨"a\"] \x7b", [("ink", "    --rule: 0;")]⟩, ⟨"", []⟩]

theorem legible_tricky (category : String) : Legible (tricky category) trickyColorways where
  name := by
    simp only [tricky, List.forall_mem_cons]
    exact ⟨by decide, by decide, nofun⟩
  value := by
    simp only [tricky, List.forall_mem_cons]
    exact ⟨by decide, by decide, nofun⟩
  colorway := by decide
  key := by decide
  entry := by decide

theorem emit_lossless_tricky :
    read (emit (tricky "Colors") trickyColorways) =
        some ([("--ink:", " a: b; \x7d"), ("--rule", "\x7d")], trickyColorways) ∧
      (tricky "Borders").declarations = (tricky "Colors").declarations := by
  have h := emit_lossless (legible_tricky "Colors")
  exact ⟨h.1, (h.2 (tricky "Borders") trickyColorways (legible_tricky "Borders") rfl).1⟩

end DesignKit.Css
