import DesignKit.Color
import Mathlib.Data.List.Forall2
import Mathlib.Data.List.TakeWhile

/-! # How a color is written

A hex color is written with or without a hash, in lower or upper case, with blanks around it, and with three
digits where each of its channels has two equal ones. The spellings are given here as a grammar. A text is read as
the color that it spells, so all that is computed of the text is computed of the color. -/

namespace DesignKit

/-! ### Trimming -/

namespace Text
variable {p : Char → Bool} {before core after : List Char}

theorem dropEnd_append (hafter : ∀ c ∈ after, p c = true) : dropEnd p (core ++ after) = dropEnd p core := by
  have hreverse : ∀ c ∈ after.reverse, p c = true := fun c hc => hafter c (List.mem_reverse.mp hc)
  rw [dropEnd, dropEnd, List.reverse_append, List.dropWhile_append_of_pos hreverse]

theorem dropWhile_of_none (hcore : ∀ c ∈ core, p c = false) : core.dropWhile p = core := by
  cases core with
  | nil => rfl
  | cons c rest => rw [List.dropWhile_cons_of_neg (by simp [hcore c List.mem_cons_self])]

theorem dropEnd_of_none (hcore : ∀ c ∈ core, p c = false) : dropEnd p core = core := by
  have hreverse : ∀ c ∈ core.reverse, p c = false := fun c hc => hcore c (List.mem_reverse.mp hc)
  rw [dropEnd, dropWhile_of_none hreverse, List.reverse_reverse]

/-- What stands between characters of a class and has none of them is what trimming leaves. -/
theorem trimBoth_around (hbefore : ∀ c ∈ before, p c = true) (hcore : ∀ c ∈ core, p c = false)
    (hafter : ∀ c ∈ after, p c = true) : trimBoth p (before ++ core ++ after) = core := by
  rw [trimBoth, List.append_assoc, List.dropWhile_append_of_pos hbefore]
  cases core with
  | nil => rw [List.nil_append, List.dropWhile_eq_nil_iff.mpr hafter]; rfl
  | cons c rest =>
    have hfirst : ¬p c = true := by simp [hcore c List.mem_cons_self]
    rw [List.cons_append, List.dropWhile_cons_of_neg hfirst, ← List.cons_append, dropEnd_append hafter,
      dropEnd_of_none hcore]

theorem exists_dropEnd (p : Char → Bool) (cs : List Char) :
    ∃ after, (∀ c ∈ after, p c = true) ∧ cs = dropEnd p cs ++ after := by
  refine ⟨(cs.reverse.takeWhile p).reverse, fun c hc => List.mem_takeWhile_imp (List.mem_reverse.mp hc), ?_⟩
  rw [dropEnd, ← List.reverse_append, List.takeWhile_append_dropWhile, List.reverse_reverse]

/-- Trimming takes off characters of the class alone. -/
theorem exists_trimBoth (p : Char → Bool) (cs : List Char) :
    ∃ before after, (∀ c ∈ before, p c = true) ∧ (∀ c ∈ after, p c = true) ∧
      cs = before ++ trimBoth p cs ++ after := by
  obtain ⟨after, hafter, heq⟩ := exists_dropEnd p (cs.dropWhile p)
  refine ⟨cs.takeWhile p, after, fun c hc => List.mem_takeWhile_imp hc, hafter, ?_⟩
  rw [trimBoth, List.append_assoc, ← heq, List.takeWhile_append_dropWhile]

end Text

/-! ### Spellings -/

namespace Color

/-- A character writes a hexadecimal digit, in lower or upper case. -/
def WritesDigit (c : Char) (d : Nat) : Prop :=
  "0123456789abcdef".toList[d]? = some c ∨ "0123456789ABCDEF".toList[d]? = some c

instance (c : Char) (d : Nat) : Decidable (WritesDigit c d) :=
  inferInstanceAs (Decidable (_ ∨ _))

/-- The six digits of a color that three or six written digits stand for. -/
inductive StandFor : List Nat → List Nat → Prop
  | three (r g b : Nat) : StandFor [r, g, b] [r, r, g, g, b, b]
  | six (r r' g g' b b' : Nat) : StandFor [r, r', g, g', b, b'] [r, r', g, g', b, b']

/-- A text spells a color, which is given by its six digits: digits that stand for them, after a hash or none, and
blanks around these. -/
inductive Spells : List Nat → List Char → Prop
  | mk {color digits : List Nat} {before hash cs after : List Char} (hbefore : ∀ c ∈ before, Text.isBlank c = true)
    (hhash : hash = [] ∨ hash = ['#']) (hdigits : List.Forall₂ WritesDigit cs digits) (hcolor : StandFor digits color)
    (hafter : ∀ c ∈ after, Text.isBlank c = true) : Spells color (before ++ (hash ++ cs) ++ after)

theorem hexValue?_table : ∀ n < 128, ∀ d ∈ Json.hexValue? (Char.ofNat n), WritesDigit (Char.ofNat n) d := by
  decide

theorem hexValue?_of_writesDigit : ∀ d < 16, ∀ c ∈ ["0123456789abcdef".toList[d]?, "0123456789ABCDEF".toList[d]?],
    c.bind Json.hexValue? = some d := by
  decide

theorem toNat_lt_of_hexValue? {c : Char} {d : Nat} (h : Json.hexValue? c = some d) : c.toNat < 128 := by
  unfold Json.hexValue? at h
  split at h
  case isTrue hc => exact Nat.lt_of_le_of_lt (Char.le_def.mp hc.2) (by decide)
  case isFalse =>
    split at h
    case isTrue hc => exact Nat.lt_of_le_of_lt (Char.le_def.mp hc.2) (by decide)
    case isFalse =>
      split at h
      case isTrue hc => exact Nat.lt_of_le_of_lt (Char.le_def.mp hc.2) (by decide)
      case isFalse => cases h

theorem hexValue?_eq_some {c : Char} {d : Nat} : Json.hexValue? c = some d ↔ WritesDigit c d := by
  constructor
  · intro h
    have hc := hexValue?_table c.toNat (toNat_lt_of_hexValue? h) d
    rw [Char.ofNat_toNat] at hc
    exact hc h
  · intro h
    have hd : d < 16 := by
      rcases h with h | h
      · exact (List.getElem?_eq_some_iff.mp h).1
      · exact (List.getElem?_eq_some_iff.mp h).1
    have hvalue := hexValue?_of_writesDigit d hd
    rcases h with h | h
    · have hlower := hvalue _ List.mem_cons_self
      rwa [h] at hlower
    · have hupper := hvalue _ (List.mem_cons_of_mem _ List.mem_cons_self)
      rwa [h] at hupper

theorem hexDigits?_eq_some {cs : List Char} {ds : List Nat} :
    hexDigits? cs = some ds ↔ List.Forall₂ WritesDigit cs ds := by
  unfold hexDigits?
  induction cs generalizing ds with
  | nil =>
    rw [List.mapM_nil, List.forall₂_nil_left_iff]
    exact ⟨fun h => (Option.some.inj h).symm, fun h => congrArg some h.symm⟩
  | cons c rest ih =>
    rw [List.mapM_cons, Option.bind_eq_bind, Option.bind_eq_some_iff, List.forall₂_cons_left_iff]
    constructor
    · rintro ⟨d, hd, h⟩
      obtain ⟨others, hothers, h⟩ := Option.bind_eq_some_iff.mp h
      cases h
      exact ⟨d, others, hexValue?_eq_some.mp hd, ih.mp hothers, rfl⟩
    · rintro ⟨d, others, hd, hothers, rfl⟩
      exact ⟨d, hexValue?_eq_some.mpr hd, Option.bind_eq_some_iff.mpr ⟨others, ih.mpr hothers, rfl⟩⟩

/-- A digit is neither a blank nor the hash. -/
theorem plain_of_writesDigit {c : Char} {d : Nat} (h : WritesDigit c d) : Text.isBlank c = false ∧ c ≠ '#' := by
  have hall : ("0123456789abcdef".toList ++ "0123456789ABCDEF".toList).all (fun c => !Text.isBlank c && c != '#') =
      true := by decide
  have hplain : ∀ c ∈ "0123456789abcdef".toList ++ "0123456789ABCDEF".toList, Text.isBlank c = false ∧ c ≠ '#' := by
    intro c hc
    simpa using List.all_eq_true.mp hall c hc
  rcases h with h | h
  · exact hplain c (List.mem_append_left _ (List.mem_of_getElem? h))
  · exact hplain c (List.mem_append_right _ (List.mem_of_getElem? h))

theorem plain_of_digits {cs : List Char} {ds : List Nat} (h : List.Forall₂ WritesDigit cs ds) :
    ∀ c ∈ cs, Text.isBlank c = false ∧ c ≠ '#' := by
  induction h with
  | nil => exact nofun
  | cons hc _ ih => exact List.forall_mem_cons.mpr ⟨plain_of_writesDigit hc, ih⟩

/-- What follows the hash of a text, or the text itself. -/
def withoutHash : List Char → List Char
  | '#' :: rest => rest
  | cs => cs

theorem exists_withoutHash (cs : List Char) :
    ∃ hash, (hash = [] ∨ hash = ['#']) ∧ cs = hash ++ withoutHash cs := by
  unfold withoutHash
  split
  · exact ⟨['#'], .inr rfl, rfl⟩
  · exact ⟨[], .inl rfl, rfl⟩

theorem withoutHash_of_ne {cs : List Char} (h : ∀ c ∈ cs, c ≠ '#') : withoutHash cs = cs := by
  unfold withoutHash
  split
  · exact absurd rfl (h _ List.mem_cons_self)
  · rfl

theorem digits?_eq (s : String) : digits? s =
    match hexDigits? (withoutHash (Text.trimBoth Text.isBlank s.toList)) with
    | some [r, g, b] => some [r, r, g, g, b, b]
    | some [r, r', g, g', b, b'] => some [r, r', g, g', b, b']
    | _ => none := rfl

/-- A text has digits when it spells a color, and they are those of the color. -/
theorem digits?_eq_some {s : String} {color : List Nat} : digits? s = some color ↔ Spells color s.toList := by
  rw [digits?_eq]
  constructor
  · intro h
    obtain ⟨before, after, hbefore, hafter, hs⟩ := Text.exists_trimBoth Text.isBlank s.toList
    obtain ⟨hash, hhash, hcore⟩ := exists_withoutHash (Text.trimBoth Text.isBlank s.toList)
    rw [hs, hcore]
    split at h
    case h_1 r g b hdigits =>
      cases h
      exact .mk hbefore hhash (hexDigits?_eq_some.mp hdigits) (.three r g b) hafter
    case h_2 r r' g g' b b' hdigits =>
      cases h
      exact .mk hbefore hhash (hexDigits?_eq_some.mp hdigits) (.six r r' g g' b b') hafter
    case h_3 => cases h
  · intro h
    generalize s.toList = cs at h
    cases h with
    | @mk digits before hash cs after hbefore hhash hdigits hcolor hafter =>
      have hcs := plain_of_digits hdigits
      have hcore : ∀ c ∈ hash ++ cs, Text.isBlank c = false := by
        refine List.forall_mem_append.mpr ⟨?_, fun c hc => (hcs c hc).1⟩
        rcases hhash with rfl | rfl
        · exact nofun
        · exact List.forall_mem_singleton.mpr rfl
      have hbare : withoutHash (hash ++ cs) = cs := by
        rcases hhash with rfl | rfl
        · exact withoutHash_of_ne fun c hc => (hcs c hc).2
        · rfl
      rw [Text.trimBoth_around hbefore hcore hafter, hbare, hexDigits?_eq_some.mpr hdigits]
      cases hcolor with
      | three r g b => rfl
      | six r r' g g' b b' => rfl

/-! ### Shades -/

/-- The channels of a color given by its six digits. -/
def channels? : List Nat → Option Rgb
  | [r, r', g, g', b, b'] => some ⟨channel r r', channel g g', channel b b'⟩
  | _ => none

/-- Whatever is spelled has channels. -/
theorem exists_channels {color : List Nat} {cs : List Char} (h : Spells color cs) : ∃ c, channels? color = some c := by
  obtain ⟨-, -, -, hcolor, -⟩ := h
  cases hcolor with
  | three => exact ⟨_, rfl⟩
  | six => exact ⟨_, rfl⟩

theorem rgb?_eq (s : String) : rgb? s = (digits? s).bind channels? := by
  unfold rgb?
  split
  case h_1 hs =>
    rw [hs]
    rfl
  case h_2 hne =>
    cases hs : digits? s with
    | none => rfl
    | some digits =>
      rw [Option.bind_some]
      unfold channels?
      split
      · exact absurd hs (hne _ _ _ _ _ _)
      · rfl

/-- The shade of a color at a lightness in percent: the color of its hue and saturation that has this lightness. -/
def shadeOf (rounding : Rounding) (c : Rgb) (lightness : Value) : Except Fault String :=
  hexOf (.float ((Hls.ofRgb rounding c).hue * 360.0)) (.float ((Hls.ofRgb rounding c).saturation * 100.0)) lightness

variable {rounding : Rounding}

theorem shades_eq (base : String) (hues : Members) : shades rounding base hues =
    match rgb? base with
    | some c => hues.mapM fun (name, lightness) => (name, ·) <$> shadeOf rounding c lightness
    | none => .ok [] := by
  unfold shades hls?
  cases rgb? base with
  | none => rfl
  | some c => rfl

/-- Where no shades are asked for there are none. -/
theorem shades_nil (base : String) : shades rounding base [] = .ok [] := by
  rw [shades_eq]
  cases rgb? base <;> rfl

/-- The shades of a text are those of the color that it spells. -/
theorem shades_of_spells {color : List Nat} {s s' : String} (h : Spells color s.toList) (h' : Spells color s'.toList)
    (hues : Members) : shades rounding s hues = shades rounding s' hues := by
  rw [shades_eq, shades_eq, rgb?_eq, rgb?_eq, digits?_eq_some.mpr h, digits?_eq_some.mpr h']

/-- A color of which the roundings make different shades. -/
example :
    (shades .oneByOne "#aee" [("light", .int 90)]).toOption = some [("light", "#d4f7f7")] ∧
    (shades .bySum "#aee" [("light", .int 90)]).toOption = some [("light", "#d5f6f6")] := by
  decide +kernel

end Color
end DesignKit
