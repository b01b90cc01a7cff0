import DesignKit.Text.Upper

/-! # Lower case

The lower-case form of a character (Unicode 14). Most capitals are the upper-case form of the character that is
their own lower-case form; the others stand in runs of their own. -/

namespace DesignKit.Text

/-- The capitals whose lower-case form is not the first character that they are the upper-case form of. -/
def lowerRuns : List CaseRun := [
  ⟨0x1c4, 0x1ca, 3, 2⟩, ⟨0x1c5, 0x1cb, 3, 1⟩, ⟨0x1f1, 0x1f1, 1, 2⟩, ⟨0x1f2, 0x1f2, 1, 1⟩, ⟨0x399, 0x399, 1, 32⟩,
  ⟨0x39c, 0x39c, 1, 32⟩, ⟨0x3a3, 0x3a3, 1, 32⟩, ⟨0x3f4, 0x3f4, 1, -60⟩, ⟨0x1e9e, 0x1e9e, 1, -7615⟩,
  ⟨0x1f88, 0x1f8f, 1, -8⟩, ⟨0x1f98, 0x1f9f, 1, -8⟩, ⟨0x1fa8, 0x1faf, 1, -8⟩, ⟨0x1fbc, 0x1fcc, 16, -9⟩,
  ⟨0x1ffc, 0x1ffc, 1, -9⟩, ⟨0x2126, 0x2126, 1, -7517⟩, ⟨0x212a, 0x212a, 1, -8383⟩, ⟨0x212b, 0x212b, 1, -8262⟩,
  ⟨0xa64a, 0xa64a, 1, 1⟩]

/-- The character that a run leads to a character from. -/
def CaseRun.back? (r : CaseRun) (c : Char) : Option Char :=
  let n := (c.toNat - r.shift).toNat
  if r.covers n then some (Char.ofNat n) else none

/-- The lower-case form of a character, itself when it has no other. The capital I with a dot becomes two
characters. -/
def lower (c : Char) : List Char :=
  if c == '\u0130' then ['i', '\u0307']
  else
    match lowerRuns.find? (·.covers c.toNat) with
    | some run => [Char.ofNat (c.toNat + run.shift).toNat]
    | none => [(caseRuns.findSome? (·.back? c)).getD c]

/-- A text in lower case. -/
def lowerAll (s : String) : String :=
  String.ofList (s.toList.flatMap lower)

end DesignKit.Text
