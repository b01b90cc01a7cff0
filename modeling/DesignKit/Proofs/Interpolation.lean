import DesignKit.Proofs.Members
import DesignKit.Props.Interpolation
import Mathlib.Data.List.Induction
import Mathlib.Data.Nat.Digits.Defs

/-! # What interpolation replaces

A template is taken apart at any one of its placeholders: what stands before it and behind it is interpolated
on its own, and the placeholder gives way to what its path leads to. A template without placeholders stays as
it is. So no brace is lost that is not part of a placeholder, and nothing that was put in is scanned again. -/

namespace DesignKit.Interpolation

/-- A text may stand between the braces of a placeholder. -/
def IsPath (w : String) : Prop :=
  w ≠ "" ∧ ∀ c ∈ w.toList, c.isAlphanum = true ∨ c = '_' ∨ c = '.'

/-- The number that decimal digits write. -/
def decimal (digits : List Char) : Nat :=
  Nat.ofDigits 10 (digits.reverse.map fun c => c.toNat - '0'.toNat)

/-- Segments lead from one value to another: through objects by their keys, through lists by the index that
their digits write. -/
inductive Leads : Value → List (List Char) → Value → Prop
  | done {v : Value} : Leads v [] v
  | member {members : Members} {segment : List Char} {rest : List (List Char)} {v w : Value}
      (h : members.get? (String.ofList segment) = some v) (hrest : Leads v rest w) :
      Leads (.object members) (segment :: rest) w
  | item {items : List Value} {segment : List Char} {rest : List (List Char)} {v w : Value} (hne : segment ≠ [])
      (hdigits : ∀ c ∈ segment, c.isDigit = true) (h : items[decimal segment]? = some v) (hrest : Leads v rest w) :
      Leads (.list items) (segment :: rest) w

/-- A path leads to a value: none of its segments is empty, and they lead there. -/
def Finds (context : Value) (w : String) (v : Value) : Prop :=
  [] ∉ w.toList.splitOn '.' ∧ Leads context (w.toList.splitOn '.') v

/-- What a placeholder stands for: the text of the scalar that its path finds, or itself when there is nothing
at the end of its path, or null, a list or an object. -/
inductive StandsFor (context : Value) (w : String) : String → Prop
  | scalar {v : Value} {text : List Char} (hv : Finds context w v) (htext : scalarText? v = some text) :
      StandsFor context w (String.ofList text)
  | itself (h : ∀ v, Finds context w v → v = .null ∨ (∃ items, v = .list items) ∨ ∃ members, v = .object members) :
      StandsFor context w ("\x7b" ++ w ++ "\x7d")

/-! ### Characters and numbers -/

theorem isPathChar_iff {c : Char} : isPathChar c = true ↔ c.isAlphanum = true ∨ c = '_' ∨ c = '.' := by
  have hlower : ('a' ≤ c && c ≤ 'z') = c.isLower := rfl
  have hupper : ('A' ≤ c && c ≤ 'Z') = c.isUpper := (Bool.decide_and _ _).symm
  have hdigit : ('0' ≤ c && c ≤ '9') = c.isDigit := rfl
  have halphanum : c.isAlphanum = ((c.isUpper || c.isLower) || c.isDigit) := rfl
  rw [isPathChar, hlower, hupper, hdigit, halphanum]
  simp only [Bool.or_eq_true, beq_iff_eq]
  tauto

theorem foldl_decimal (digits : List Char) :
    digits.foldl (fun n c => n * 10 + (c.toNat - '0'.toNat)) 0 = decimal digits := by
  induction digits using List.reverseRecOn with
  | nil => rfl
  | append_singleton digits c ih =>
    rw [List.foldl_append, ih, decimal, decimal, List.reverse_append, List.reverse_singleton, List.singleton_append,
      List.map_cons, Nat.ofDigits_cons, List.foldl_cons, List.foldl_nil]
    omega

theorem index?_eq_some {segment : List Char} {n : Nat} :
    index? segment = some n ↔ segment ≠ [] ∧ (∀ c ∈ segment, c.isDigit = true) ∧ decimal segment = n := by
  unfold index?
  rw [foldl_decimal]
  split
  · rename_i h
    obtain ⟨hdigits, hne⟩ := Bool.and_eq_true_iff.mp h
    have hne : segment ≠ [] := by simpa using hne
    rw [Option.some_inj]
    exact ⟨fun h => ⟨hne, List.all_eq_true.mp hdigits, h⟩, fun h => h.2.2⟩
  · rename_i h
    refine ⟨nofun, fun ⟨hne, hdigits, _⟩ => absurd ?_ h⟩
    rw [Bool.and_eq_true_iff]
    exact ⟨List.all_eq_true.mpr hdigits, by simpa using hne⟩

/-! ### Paths -/

theorem walk?_eq_some {context v : Value} {segments : List (List Char)} :
    walk? context segments = some v ↔ Leads context segments v := by
  induction segments generalizing context with
  | nil =>
    constructor
    · intro h
      cases h
      exact .done
    · intro h
      cases h
      rfl
  | cons segment rest ih =>
    rw [walk?, Option.bind_eq_some_iff]
    constructor
    · rintro ⟨u, hstep, hrest⟩
      have hrest := ih.mp hrest
      cases context with
      | object members => exact .member hstep hrest
      | list items =>
        obtain ⟨n, hn, hitem⟩ := Option.bind_eq_some_iff.mp hstep
        obtain ⟨hne, hdigits, rfl⟩ := index?_eq_some.mp hn
        exact .item hne hdigits hitem hrest
      | _ => cases hstep
    · intro h
      cases h with
      | member h hrest => exact ⟨_, h, ih.mpr hrest⟩
      | item hne hdigits h hrest =>
        exact ⟨_, Option.bind_eq_some_iff.mpr ⟨_, index?_eq_some.mpr ⟨hne, hdigits, rfl⟩, h⟩, ih.mpr hrest⟩

theorem resolve?_eq_some {context : Value} {w : String} {text : List Char} :
    resolve? context w.toList = some text ↔ ∃ v, Finds context w v ∧ scalarText? v = some text := by
  have hany : ((w.toList.splitOn '.').any List.isEmpty = true) ↔ [] ∈ w.toList.splitOn '.' := by
    simp [List.any_eq_true]
  unfold resolve?
  simp only [hany]
  split
  · rename_i hempty
    exact ⟨nofun, fun ⟨v, hv, _⟩ => absurd hempty hv.1⟩
  · rename_i hempty
    rw [Option.bind_eq_some_iff]
    exact exists_congr fun v => and_congr_left fun _ => walk?_eq_some.trans (iff_and_self.mpr fun _ => hempty)

theorem scalarText?_eq_none {v : Value} :
    scalarText? v = none ↔ v = .null ∨ (∃ items, v = .list items) ∨ ∃ members, v = .object members := by
  cases v with
  | float x =>
    simp only [scalarText?]
    cases Number.whole? x <;> simp
  | _ => simp [scalarText?]

/-- What stands in the place of a placeholder is what the placeholder stands for, and nothing else is. -/
theorem standsFor_iff {context : Value} {w text : String} :
    StandsFor context w text ↔ text = String.ofList (replacement context w.toList) := by
  have hself : String.ofList (opening :: w.toList ++ [closing]) = "\x7b" ++ w ++ "\x7d" := by
    rw [← String.toList_inj]
    simp [opening, closing]
  unfold replacement
  constructor
  · intro h
    cases h with
    | scalar hv htext => rw [resolve?_eq_some.mpr ⟨_, hv, htext⟩, Option.getD_some]
    | itself h =>
      have hnone : resolve? context w.toList = none := by
        refine Option.eq_none_iff_forall_ne_some.mpr fun text hsome => ?_
        obtain ⟨v, hv, htext⟩ := resolve?_eq_some.mp hsome
        rw [scalarText?_eq_none.mpr (h v hv)] at htext
        cases htext
      rw [hnone, Option.getD_none, hself]
  · rintro rfl
    cases hr : resolve? context w.toList with
    | some text =>
      obtain ⟨v, hv, htext⟩ := resolve?_eq_some.mp hr
      exact .scalar hv htext
    | none =>
      rw [Option.getD_none, hself]
      refine .itself fun v hv => scalarText?_eq_none.mp ?_
      cases htext : scalarText? v with
      | none => rfl
      | some text =>
        rw [resolve?_eq_some.mpr ⟨v, hv, htext⟩] at hr
        cases hr

/-! ### Placeholders -/

/-- A placeholder is read exactly where path characters stand before the first closing brace. -/
theorem placeholder?_eq_some {rest w after : List Char} :
    placeholder? rest = some (w, after) ↔
      rest = w ++ closing :: after ∧ w ≠ [] ∧ ∀ c ∈ w, isPathChar c = true := by
  constructor
  · intro h
    unfold placeholder? at h
    split at h
    · rename_i c tail hdrop
      split at h
      · rename_i hc
        cases h
        refine ⟨?_, hc.2, List.all_eq_true.mp List.all_takeWhile⟩
        rw [← hc.1, ← hdrop, List.takeWhile_append_dropWhile]
      · cases h
    · cases h
  · rintro ⟨rfl, hne, hw⟩
    have hclosing : ¬ isPathChar closing = true := by decide
    have htake : (w ++ closing :: after).takeWhile isPathChar = w := by
      rw [List.takeWhile_append_of_pos hw, List.takeWhile_cons_of_neg hclosing, List.append_nil]
    have hdrop : (w ++ closing :: after).dropWhile isPathChar = closing :: after := by
      rw [List.dropWhile_append_of_pos hw, List.dropWhile_cons_of_neg hclosing]
    simp only [placeholder?, hdrop, htake]
    exact if_pos ⟨trivial, hne⟩

/-- An opening brace further on belongs to no placeholder that is open before it: that one is read as if the
text ended there, or not at all. -/
theorem placeholder?_append_opening (rest more : List Char) :
    placeholder? (rest ++ opening :: more) =
      (placeholder? rest).map fun found => (found.1, found.2 ++ opening :: more) := by
  refine Option.ext fun found => ?_
  rw [Option.map_eq_some_iff]
  constructor
  · intro h
    obtain ⟨htext, hne, hw⟩ := placeholder?_eq_some.mp h
    obtain ⟨w, after⟩ := found
    rcases List.append_eq_append_iff.mp htext with ⟨between, hpath, hrest⟩ | ⟨between, hrest, hpath⟩
    · -- The brace would be the closing one, or stand in the path.
      cases between with
      | nil => exact absurd (List.cons.inj hrest).1 (by decide)
      | cons c between =>
        obtain ⟨rfl, -⟩ := List.cons.inj hrest
        exact absurd (hw opening (hpath ▸ List.mem_append_right _ List.mem_cons_self)) (by decide)
    · cases between with
      | nil => exact absurd (List.cons.inj hpath).1 (by decide)
      | cons c between =>
        obtain ⟨rfl, rfl⟩ := List.cons.inj hpath
        exact ⟨(w, between), placeholder?_eq_some.mpr ⟨hrest, hne, hw⟩, rfl⟩
  · rintro ⟨⟨w, after⟩, h, rfl⟩
    obtain ⟨rfl, hne, hw⟩ := placeholder?_eq_some.mp h
    exact placeholder?_eq_some.mpr ⟨by simp, hne, hw⟩

/-! ### Templates -/

section
variable {context : Value}

theorem interpolateChars_placeholder {rest w after : List Char} (h : placeholder? rest = some (w, after)) :
    interpolateChars context (opening :: rest) = replacement context w ++ interpolateChars context after := by
  rw [interpolateChars, if_pos rfl]
  split
  · rename_i found
    rw [h] at found
    cases found
    rfl
  · rename_i found
    rw [h] at found
    cases found

theorem interpolateChars_opening {rest : List Char} (h : placeholder? rest = none) :
    interpolateChars context (opening :: rest) = opening :: interpolateChars context rest := by
  rw [interpolateChars, if_pos rfl]
  split
  · rename_i found
    rw [h] at found
    cases found
  · rfl

theorem interpolateChars_other {c : Char} (h : c ≠ opening) (rest : List Char) :
    interpolateChars context (c :: rest) = c :: interpolateChars context rest := by
  rw [interpolateChars, if_neg h]

theorem interpolateChars_around (a : List Char) {w : List Char} (hne : w ≠ []) (hw : ∀ c ∈ w, isPathChar c = true)
    (b : List Char) :
    interpolateChars context (a ++ opening :: (w ++ closing :: b)) =
      interpolateChars context a ++ (replacement context w ++ interpolateChars context b) := by
  -- On the scan of what stands before: it meets the same placeholders with the given one behind them.
  fun_induction interpolateChars context a with
  | case1 => exact interpolateChars_placeholder (placeholder?_eq_some.mpr ⟨rfl, hne, hw⟩)
  | case2 rest path after h ih =>
    have hlonger := placeholder?_append_opening rest (w ++ closing :: b)
    rw [h, Option.map_some] at hlonger
    rw [List.cons_append, interpolateChars_placeholder hlonger, ih, List.append_assoc]
  | case3 rest h ih =>
    have hlonger := placeholder?_append_opening rest (w ++ closing :: b)
    rw [h, Option.map_none] at hlonger
    rw [List.cons_append, interpolateChars_opening hlonger, ih, List.cons_append]
  | case4 c rest h ih => rw [List.cons_append, interpolateChars_other h, ih, List.cons_append]

/-- A template whose placeholders lead to nothing that has a text stays as it is. -/
theorem interpolateChars_of_unresolved {t : List Char}
    (h : ∀ a w b, w ≠ [] → (∀ c ∈ w, isPathChar c = true) → t = a ++ opening :: (w ++ closing :: b) →
      resolve? context w = none) : interpolateChars context t = t := by
  fun_induction interpolateChars context t with
  | case1 => rfl
  | case2 rest path after hfound ih =>
    obtain ⟨rfl, hne, hw⟩ := placeholder?_eq_some.mp hfound
    have hafter := ih fun a w b hne' hw' heq => h (opening :: (path ++ closing :: a)) w b hne' hw' (by simp [heq])
    rw [replacement, h [] path after hne hw rfl, Option.getD_none, hafter]
    simp
  | case3 rest hfound ih =>
    rw [ih fun a w b hne hw heq => h (opening :: a) w b hne hw (by rw [heq, List.cons_append])]
  | case4 c rest hc ih =>
    rw [ih fun a w b hne hw heq => h (c :: a) w b hne hw (by rw [heq, List.cons_append])]

theorem interpolateChars_of_none {t : List Char}
    (h : ∀ a w b, w ≠ [] → (∀ c ∈ w, isPathChar c = true) → t ≠ a ++ opening :: (w ++ closing :: b)) :
    interpolateChars context t = t :=
  interpolateChars_of_unresolved fun a w b hne hw heq => absurd heq (h a w b hne hw)

end

theorem IsPath.chars {w : String} (h : IsPath w) : w.toList ≠ [] ∧ ∀ c ∈ w.toList, isPathChar c = true :=
  ⟨fun hnil => h.1 (String.toList_eq_nil_iff.mp hnil), fun c hc => isPathChar_iff.mpr (h.2 c hc)⟩

theorem isPath_ofList {w : List Char} (hne : w ≠ []) (hw : ∀ c ∈ w, isPathChar c = true) : IsPath (String.ofList w) := by
  refine ⟨fun hempty => hne ?_, fun c hc => isPathChar_iff.mp (hw c (by simpa using hc))⟩
  simpa using congrArg String.toList hempty

/-- A template around a placeholder is interpolated before it and behind it, and the placeholder gives way to
what it stands for; a template without a placeholder stays as it is. -/
theorem interpolate_placeholders (context : Value) :
    (∀ a w b : String, IsPath w → ∃ text, (∀ s, StandsFor context w s ↔ s = text) ∧
      interpolate context (a ++ "\x7b" ++ w ++ "\x7d" ++ b) = interpolate context a ++ text ++ interpolate context b) ∧
    (∀ t : String, (∀ a w b, IsPath w → t ≠ a ++ "\x7b" ++ w ++ "\x7d" ++ b) → interpolate context t = t) := by
  have hchars : ∀ a w b : String, (a ++ "\x7b" ++ w ++ "\x7d" ++ b).toList =
      a.toList ++ opening :: (w.toList ++ closing :: b.toList) := fun a w b => by
    simp [opening, closing]
  constructor
  · intro a w b hw
    refine ⟨_, fun s => standsFor_iff, ?_⟩
    obtain ⟨hne, hpath⟩ := hw.chars
    rw [interpolate, hchars, interpolateChars_around a.toList hne hpath]
    simp only [interpolate, String.ofList_append, String.append_assoc]
  · intro t h
    rw [interpolate, interpolateChars_of_none, String.ofList_toList]
    intro a w b hne hw heq
    refine h (String.ofList a) (String.ofList w) (String.ofList b) (isPath_ofList hne hw) ?_
    rw [← String.toList_inj, hchars, heq]
    simp

theorem interpolate_placeholders_doubled :
    let context : Value := .object
      [("r", .list [.null, .object [("n", .text "\x7bn\x7d")]]), ("n", .int 3)]
    IsPath "r.01.n" ∧ (∀ a w b, IsPath w → "\x7b" ≠ a ++ "\x7b" ++ w ++ "\x7d" ++ b) ∧
      interpolate context ("\x7b" ++ "\x7b" ++ "r.01.n" ++ "\x7d" ++ "\x7d") = "\x7b" ++ "\x7bn\x7d" ++ "\x7d" := by
  intro context
  have hchars : "r.01.n".toList.all isPathChar = true := rfl
  have hpath : IsPath "r.01.n" := ⟨by decide, fun c hc => isPathChar_iff.mp (List.all_eq_true.mp hchars c hc)⟩
  -- A text of one character has no room for a placeholder.
  have hshort : ∀ t : String, t.length = 1 → ∀ a w b, IsPath w → t ≠ a ++ "\x7b" ++ w ++ "\x7d" ++ b := by
    rintro _ ht a w b - rfl
    have hbraces : "\x7b".length = 1 ∧ "\x7d".length = 1 := by decide
    simp only [String.length_append] at ht
    omega
  have hfinds : Finds context "r.01.n" (.text "\x7bn\x7d") := by
    refine ⟨by decide, ?_⟩
    have hsplit : "r.01.n".toList.splitOn '.' = ["r".toList, "01".toList, "n".toList] := rfl
    rw [hsplit]
    have hdigits : ∀ c ∈ "01".toList, c.isDigit = true := List.all_eq_true.mp rfl
    exact .member rfl (.item (by decide) hdigits rfl (.member rfl .done))
  obtain ⟨text, htext, h⟩ := (interpolate_placeholders context).1 "\x7b" "r.01.n" "\x7d" hpath
  refine ⟨hpath, hshort _ rfl, ?_⟩
  rw [h, ← (htext _).mp (.scalar hfinds rfl), (interpolate_placeholders context).2 _ (hshort "\x7b" rfl),
    (interpolate_placeholders context).2 _ (hshort "\x7d" rfl)]
  rfl

end DesignKit.Interpolation
