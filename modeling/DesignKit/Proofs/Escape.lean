import DesignKit.Number.Text
import DesignKit.Text.Escape

/-! # Undoing the escapes of a text

The references for the special characters can be told from everything else in an escaped text, so an escaped text
gives back the text it was made from. Escaping works character by character and leaves line breaks alone: the
lines of a text may be escaped one by one. -/

namespace DesignKit

namespace Number

theorem toList_intText (n : Nat) : (intText n).toList = Nat.toDigits 10 n := by
  have hsign : ¬ (n : Int) < 0 := by omega
  rw [intText, if_neg hsign, String.toList_ofList, natText, Int.natAbs_natCast]

theorem isDigit_of_mem_intText {n : Nat} {c : Char} (h : c ∈ (intText n).toList) : c.isDigit = true := by
  rw [toList_intText] at h
  exact Nat.isDigit_of_mem_toDigits (b := 10) (by decide) (by decide) h

theorem intText_inj {i j : Nat} (h : intText i = intText j) : i = j := by
  have hdigits : Nat.toDigits 10 i = Nat.toDigits 10 j := by
    rw [← toList_intText, ← toList_intText, h]
  exact Nat.ofDigitChars_ten_toDigits.symm.trans (hdigits ▸ Nat.ofDigitChars_ten_toDigits)

end Number

namespace Text

/-- A text with the references for the special characters undone. -/
def unescapeChars : List Char → List Char
  | '&' :: 'a' :: 'm' :: 'p' :: ';' :: rest => '&' :: unescapeChars rest
  | '&' :: 'l' :: 't' :: ';' :: rest => '<' :: unescapeChars rest
  | '&' :: 'g' :: 't' :: ';' :: rest => '>' :: unescapeChars rest
  | '&' :: '#' :: '3' :: '4' :: ';' :: rest => '"' :: unescapeChars rest
  | '&' :: '#' :: '3' :: '9' :: ';' :: rest => '\x27' :: unescapeChars rest
  | c :: rest => c :: unescapeChars rest
  | [] => []

theorem unescapeChars_cons {c : Char} (h : c ≠ '&') (rest : List Char) :
    unescapeChars (c :: rest) = c :: unescapeChars rest := by
  rw [unescapeChars]
  all_goals
    intros
    contradiction

theorem escapeChars_cons (c : Char) (cs : List Char) : escapeChars (c :: cs) = escapeChar c ++ escapeChars cs :=
  List.flatMap_cons

theorem escapeChars_append (cs ds : List Char) : escapeChars (cs ++ ds) = escapeChars cs ++ escapeChars ds :=
  List.flatMap_append

/-- The written form of a character is read as that character, whatever follows it. -/
theorem unescapeChars_escapeChar (c : Char) (rest : List Char) :
    unescapeChars (escapeChar c ++ rest) = c :: unescapeChars rest := by
  unfold escapeChar
  split
  case h_6 hamp _ _ _ _ => exact unescapeChars_cons hamp rest
  all_goals rfl

/-- An escaped text gives back the text. -/
theorem unescapeChars_escapeChars (cs : List Char) : unescapeChars (escapeChars cs) = cs := by
  induction cs with
  | nil => rfl
  | cons c rest ih => rw [escapeChars_cons, unescapeChars_escapeChar, ih]

/-! ### Numbers -/

theorem escapeChars_digits {cs : List Char} (h : ∀ c ∈ cs, c.isDigit = true) : escapeChars cs = cs := by
  induction cs with
  | nil => rfl
  | cons c rest ih =>
    have hdigit := h c List.mem_cons_self
    have hc : escapeChar c = [c] := by
      unfold escapeChar
      split
      case h_6 => rfl
      all_goals cases hdigit
    rw [escapeChars_cons, hc, ih fun d hd => h d (List.mem_cons_of_mem _ hd), List.singleton_append]

/-- A number is written as it is. -/
theorem escapeChars_intText (n : Nat) : escapeChars (Number.intText n).toList = (Number.intText n).toList :=
  escapeChars_digits fun _ hc => Number.isDigit_of_mem_intText hc

/-! ### Lines -/

theorem newline_not_mem_escapeChar {c : Char} (h : c ≠ '\n') : '\n' ∉ escapeChar c := by
  unfold escapeChar
  split
  case h_6 => simpa using h.symm
  all_goals decide

theorem newline_not_mem_escapeChars {cs : List Char} (h : '\n' ∉ cs) : '\n' ∉ escapeChars cs := by
  intro hmem
  obtain ⟨c, hc, hin⟩ := List.mem_flatMap.mp hmem
  exact newline_not_mem_escapeChar (fun heq => h (heq ▸ hc)) hin

/-- Lines are escaped together as they are one by one. -/
theorem escapeChars_intercalate (lines : List (List Char)) :
    escapeChars (['\n'].intercalate lines) = ['\n'].intercalate (lines.map escapeChars) := by
  induction lines with
  | nil => rfl
  | cons line rest ih =>
    cases rest with
    | nil => simp
    | cons second others =>
      rw [List.map_cons, List.map_cons, List.intercalate_cons_cons, List.intercalate_cons_cons, ← List.map_cons, ← ih,
        escapeChars_append, escapeChars_append]
      rfl

end Text
end DesignKit
