import DesignKit.Toml.Reader

/-! # Integers and assignments

What a TOML document means that is a single assignment, and what an integer in it means. An integer is printed by the
digits that wrote it, so it is too long exactly when there are too many of them. -/

namespace DesignKit.Toml
open Number

/-! ### Digits -/

theorem hexValue?_of_isDigit {c : Char} (h : c.isDigit = true) : Json.hexValue? c = some (c.toNat - 48) := by
  rw [Char.isDigit, Bool.and_eq_true, decide_eq_true_eq, decide_eq_true_eq] at h
  exact if_pos h

theorem toNat_of_isDigit {c : Char} (h : c.isDigit = true) : 48 ≤ c.toNat ∧ c.toNat ≤ 57 := by
  rw [Char.isDigit, Bool.and_eq_true, decide_eq_true_eq, decide_eq_true_eq] at h
  exact h

theorem digitChar_of_isDigit {c : Char} (h : c.isDigit = true) : Nat.digitChar (c.toNat - 48) = c := by
  obtain ⟨hleast, hmost⟩ := toNat_of_isDigit h
  have hvalue : (Nat.digitChar (c.toNat - 48)).toNat = 48 + (c.toNat - 48) := Nat.toNat_digitChar_of_lt_ten (by omega)
  exact Char.toNat_inj.mp (by omega)

/-- Digits that are read behind a number are printed behind it. -/
theorem natText_foldl {ds : List Char} (hdigits : ∀ c ∈ ds, c.isDigit = true) {n : Nat} (hn : 0 < n) :
    natText (ds.foldl (fun n c => n * 10 + (Json.hexValue? c).getD 0) n) = natText n ++ ds := by
  induction ds generalizing n with
  | nil => rw [List.foldl_nil, List.append_nil]
  | cons c ds ih =>
    have hc := hdigits c List.mem_cons_self
    obtain ⟨hleast, hmost⟩ := toNat_of_isDigit hc
    have hbelow : c.toNat - 48 < 10 := by omega
    have hnext : natText (n * 10 + (c.toNat - 48)) = natText n ++ [c] := by
      rw [natText, natText, Nat.mul_comm, ← Nat.toDigits_append_toDigits (by decide) hn hbelow,
        Nat.toDigits_of_lt_base hbelow, digitChar_of_isDigit hc]
    rw [List.foldl_cons, hexValue?_of_isDigit hc, Option.getD_some,
      ih (fun d hd => hdigits d (List.mem_cons_of_mem c hd)) (by omega), hnext, List.append_assoc,
      List.singleton_append]

variable {c : Char} {ds : List Char}

/-- A decimal integer is printed by the digits that wrote it. -/
theorem natText_inBase (hdigits : ∀ d ∈ c :: ds, d.isDigit = true) (hc : c ≠ '0') :
    natText (inBase 10 (c :: ds)) = c :: ds := by
  have hdigit := hdigits c List.mem_cons_self
  obtain ⟨hleast, hmost⟩ := toNat_of_isDigit hdigit
  have hpositive : c.toNat ≠ 48 := fun h => hc (Char.toNat_inj.mp h)
  rw [inBase, List.foldl_cons, hexValue?_of_isDigit hdigit, Option.getD_some, Nat.zero_mul, Nat.zero_add,
    natText_foldl (fun d hd => hdigits d (List.mem_cons_of_mem c hd)) (by omega), natText,
    Nat.toDigits_of_lt_base (by omega), digitChar_of_isDigit hdigit, List.singleton_append]

theorem digitRun_of_digits (hdigits : ∀ d ∈ ds, d.isDigit = true) : digitRun Char.isDigit ds = (ds, []) := by
  induction ds with
  | nil => rw [digitRun]
  | cons c ds ih =>
    have hc := hdigits c List.mem_cons_self
    cases ds with
    | nil => rw [digitRun, if_pos hc]
    | cons d ds =>
      have hd : d ≠ '_' := by
        rintro rfl
        exact absurd (hdigits '_' (List.mem_cons_of_mem c List.mem_cons_self)) (by decide)
      unfold digitRun
      simp only [hc, beq_false_of_ne hd, Bool.not_true, Bool.false_eq_true, if_false,
        ih fun e he => hdigits e (List.mem_cons_of_mem c he)]

/-! ### Integers -/

theorem decimal?_of_digits (hdigits : ∀ d ∈ c :: ds, d.isDigit = true) (hc : c ≠ '0') :
    decimal? (c :: ds) = some (.int (inBase 10 (c :: ds)), []) := by
  have hdigit := hdigits c List.mem_cons_self
  have hsign : leadingSign (c :: ds) = (false, c :: ds) := by
    unfold leadingSign
    split
    · rename_i h
      cases h
      cases hdigit
    · rename_i h
      cases h
      cases hdigit
    · rfl
  have hwhole : wholePart (c :: ds) = (c :: ds, []) := by
    unfold wholePart
    split
    · rename_i h
      cases h
      exact absurd rfl hc
    · exact digitRun_of_digits hdigits
  simp only [decimal?, hsign, hwhole, fractionPart, exponentPart, List.isEmpty_cons, List.isEmpty_nil, Bool.and_self,
    if_true, Bool.false_eq_true, if_false]

/-- An integer is read where it has not too many digits. -/
theorem number?_of_digits (hdigits : ∀ d ∈ c :: ds, d.isDigit = true) (hc : c ≠ '0') :
    number? (c :: ds) = some (
      if Value.mostDigits < (c :: ds).length then .error .longNumber else .ok (.int (inBase 10 (c :: ds)), [])) := by
  unfold number?
  split
  · rename_i h
    cases h
    exact absurd rfl hc
  · rename_i h
    cases h
    exact absurd rfl hc
  · rename_i h
    cases h
    exact absurd rfl hc
  · simp only [decimal?_of_digits hdigits hc, Value.isLong, Value.isLongInt, Int.natAbs_natCast,
      natText_inBase hdigits hc, decide_eq_true_eq]

/-! ### Moments -/

theorem mem_of_digits? {count : Nat} {cs rest : List Char} {ns : List Nat} (h : digits? count cs = some (ns, rest))
    {c : Char} (hc : c ∈ rest) : c ∈ cs := by
  induction count generalizing cs ns with
  | zero =>
    cases h
    exact hc
  | succ count ih =>
    cases cs with
    | nil => cases h
    | cons d cs =>
      obtain ⟨n, -, h⟩ := Option.bind_eq_some_iff.mp h
      obtain ⟨⟨more, after⟩, hmore, h⟩ := Option.bind_eq_some_iff.mp h
      cases h
      exact List.mem_cons_of_mem d (ih hmore)

theorem behind?_of_notMem {cs : List Char} (h : c ∉ cs) : behind? c cs = none := by
  cases cs with
  | nil => rfl
  | cons d rest =>
    refine if_neg fun heq => h ?_
    obtain rfl : d = c := eq_of_beq heq
    exact List.mem_cons_self

/-- Nothing is a moment that has neither the mark of days nor that of times. -/
theorem moment?_of_notMem {cs : List Char} (hday : '-' ∉ cs) (htime : ':' ∉ cs) : moment? cs = none := by
  have hnumbers : dayNumbers? cs = none := by
    unfold dayNumbers?
    cases hyear : digits? 4 cs with
    | none => rfl
    | some found =>
      obtain ⟨year, rest⟩ := found
      simp only [Option.bind_eq_bind, Option.bind_some,
        behind?_of_notMem fun h => hday (mem_of_digits? hyear h), Option.bind_none]
  have hclock : clock? cs = none := by
    unfold clock? below?
    cases hhour : digits? 2 cs with
    | none => rfl
    | some found =>
      obtain ⟨hour, rest⟩ := found
      by_cases hlimit : ofDigits hour < 24
      · simp only [Option.bind_eq_bind, Option.bind_some, hlimit, dif_pos,
          behind?_of_notMem fun h => htime (mem_of_digits? hhour h), Option.bind_none]
      · simp only [Option.bind_eq_bind, Option.bind_some, hlimit, dif_neg, not_false_eq_true, Option.bind_none]
  rw [moment?, hnumbers]
  simp only [hclock, Option.map_none]

/-- What digits mean: an integer, or one that is too long. -/
theorem value_of_digits {fuel : Nat} (hdigits : ∀ d ∈ c :: ds, d.isDigit = true) (hc : c ≠ '0') :
    value (fuel + 1) (c :: ds) =
      if Value.mostDigits < (c :: ds).length then .error .longNumber else .ok (.int (inBase 10 (c :: ds)), []) := by
  have hdigit := hdigits c List.mem_cons_self
  have hmoment : moment? (c :: ds) = none :=
    moment?_of_notMem (fun h => absurd (hdigits _ h) (by decide)) (fun h => absurd (hdigits _ h) (by decide))
  have htext : anyText (c :: ds) = none := by
    unfold anyText
    split
    all_goals first
      | rfl
      | rename_i h
        cases h
        cases hdigit
  unfold value
  split
  · rename_i h
    cases h
    cases hdigit
  · rename_i h
    cases h
    cases hdigit
  · simp only [htext, atom, hmoment, number?_of_digits hdigits hc]

/-! ### Assignments -/

variable {text : String} {cs written : List Char} {parts : Key} {v : Value} {data : Table}

section
variable (htext : skip text.toList = c :: cs) (hc : isBare c = true)
  (hkey : key (cs.length + 2) (c :: cs) = some (parts, '=' :: written))
include hc hkey

/-- A text that begins like a key is an assignment. -/
theorem statement_assignment :
    statement .empty (c :: cs) = do
      let (v, rest) ← value (2 * written.length + 2) (skip written)
      return (← need (Document.empty.set parts v), rest) := by
  unfold statement
  split
  -- A bracket is not what a key begins with.
  · rename_i h
    cases h
    cases hc
  · rename_i h
    cases h
    cases hc
  · rename_i h
    cases h
    rw [hc, Bool.true_or, Bool.true_or, if_pos rfl]
    simp only [hkey, need, bind, Except.bind]
  · rename_i h
    cases h

include htext

/-- What a text means that is a single assignment. -/
theorem read_assignment (hvalue : value (2 * written.length + 2) (skip written) = .ok (v, []))
    (hset : (Document.empty.set parts v).map (·.table) = some data) : read text = .ok data := by
  obtain ⟨d, hd, rfl⟩ := Option.map_eq_some_iff.mp hset
  rw [read, lines, htext, statement_assignment hc hkey, hvalue]
  simp only [bind, Except.bind, hd, need]
  rfl

theorem read_of_failure {failure : Failure} (hvalue : value (2 * written.length + 2) (skip written) = .error failure) :
    read text = .error failure := by
  rw [read, lines, htext, statement_assignment hc hkey, hvalue]
  rfl

end

end DesignKit.Toml
