import DesignKit.Proofs.Cli.Tokens
import DesignKit.Proofs.Console
import DesignKit.Proofs.Escape

/-! # Tokens that are written to a file

What the command for tokens prints goes to a file when one is given, as it stands, and a line about the file is
printed in its place. A table is printed all the same, and it goes to no file. The line about the file shows its path
as styled text, so a path with brackets can make the command fail after the file has been written. -/

namespace DesignKit.Cli
open FileTree

variable {rounding : Color.Rounding} {t : FileTree}

/-! ### The line about a file -/

theorem styledLine_of_shown {s text : String} (h : Console.shown s = .ok text) :
    styledLine s = .ok (Console.printed text) := by
  rw [styledLine, h]
  rfl

theorem exists_writtenLine (table : Table) {p : Path} (h : '[' ∉ p.print.toList) :
    ∃ line, writtenLine table p = .ok line := by
  -- Between the tags stand words and digits, so the closing tag is the next one.
  have hdigits : ∀ c : Char, c.isDigit = false → c ∉ (Number.intText table.length).toList := fun c hc hmem => by
    rw [Number.isDigit_of_mem_intText hmem] at hc
    cases hc
  have hinside : ∀ c : Char, c.isDigit = false → c ∉ "Wrote ".toList → c ∉ " tokens to".toList →
      c ∉ "Wrote ".toList ++ (Number.intText table.length).toList ++ " tokens to".toList := by
    intro c hc hbefore hafter
    simp only [List.mem_append, not_or]
    exact ⟨⟨hbefore, hdigits c hc⟩, hafter⟩
  have hbehind : '[' ∉ ' ' :: p.print.toList := by
    simp only [List.mem_cons, not_or]
    exact ⟨by decide, h⟩
  obtain ⟨text, htext⟩ := Console.exists_shown_green (hinside '[' (by decide) (by decide) (by decide))
    (hinside '\\' (by decide) (by decide) (by decide)) (by simp) hbehind (by simp)
  have hline : "[green]Wrote " ++ Number.intText table.length ++ " tokens to[/green] " ++ p.print =
      String.ofList ("[green]".toList ++ ("Wrote ".toList ++ (Number.intText table.length).toList ++
        " tokens to".toList ++ ("[/green]".toList ++ ' ' :: p.print.toList))) := by
    refine String.toList_inj.mp ?_
    simp
  exact ⟨_, by rw [writtenLine, hline, styledLine_of_shown htext]⟩

/-! ### The file -/

/-- A text that can be written is what the file then holds. -/
theorem saveWithin_of_isWritable {p : Path} (h : t.IsWritable p) (text : String) :
    ∃ saved, saveWithin t p text = (.ok (), saved) ∧ saved.find? p = some (.ofText text) := by
  obtain ⟨made, place, hmade, hplace, hnot⟩ := h
  have hwrite : made.write p text = .ok (made.put place (.ofText text)) := write_eq_ok.mpr ⟨place, hplace, hnot, rfl⟩
  have hsave : save made p text = .ok (made.put place (.ofText text)) := by
    rw [save, hwrite]
    rfl
  refine ⟨_, ?_, find?_write hwrite⟩
  simp only [saveWithin, hmade, hsave]

section
variable {manifest document output scaleSchema : Option Path} {format : TokenFormat}

/-- What is printed has been compiled and put into its form, and no file was to be written. -/
theorem tokens_eq_ok {text : String} (hmanifest : ∀ m, project t manifest = .ok m → m.outputPath = none)
    (h : (tokens rounding t manifest document none format scaleSchema).1 = .ok text) :
    (∃ m table colorways, compiled rounding t manifest document scaleSchema = .ok (m, table, colorways) ∧
      tokensText format table colorways = .ok text) ∧
    tokens rounding t manifest document none format scaleSchema = (.ok text, t) := by
  cases hcompiled : compiled rounding t manifest document scaleSchema with
  | error failure =>
    rw [tokens_of_error hcompiled] at h
    cases h
  | ok result =>
    obtain ⟨m, table, colorways⟩ := result
    obtain ⟨-, -, -, hm, -⟩ := compiled_eq_ok hcompiled
    have hplace : tokensOutput m none format = none := by
      cases format <;> simp [tokensOutput, hmanifest m hm]
    cases htext : tokensText format table colorways with
    | error failure =>
      simp only [tokens, hcompiled, bind, Except.bind, htext] at h
      cases h
    | ok printed =>
      have htokens : tokens rounding t manifest document none format scaleSchema = (.ok printed, t) := by
        simp only [tokens, hcompiled, bind, Except.bind, htext, pure, Except.pure, hplace]
      rw [htokens] at h
      cases h
      exact ⟨⟨m, table, colorways, rfl, htext⟩, htokens⟩

theorem tokens_table {m : Manifest} {table : Table} {colorways : List Colorway} {text : String}
    (hcompiled : compiled rounding t manifest document scaleSchema = .ok (m, table, colorways))
    (htext : tokensText .table table colorways = .ok text) :
    tokens rounding t manifest document output .table scaleSchema = (.ok text, t) := by
  simp only [tokens, hcompiled, bind, Except.bind, htext, pure, Except.pure, tokensOutput]

theorem tokens_saved {p : Path} {m : Manifest} {table : Table} {colorways : List Colorway} {text : String}
    (hformat : format ≠ .table) (hwritable : t.IsWritable p)
    (hcompiled : compiled rounding t manifest document scaleSchema = .ok (m, table, colorways))
    (htext : tokensText format table colorways = .ok text) :
    ∃ saved, tokens rounding t manifest document (some p) format scaleSchema = (writtenLine table p, saved) ∧
      saved.find? p = some (.ofText text) := by
  have hplace : tokensOutput m (some p) format = some p := by
    cases format with
    | table => exact absurd rfl hformat
    | css => rfl
    | json => rfl
  obtain ⟨saved, hsaved, hfind⟩ := saveWithin_of_isWritable hwritable text
  refine ⟨saved, ?_, hfind⟩
  simp only [tokens, hcompiled, bind, Except.bind, htext, pure, Except.pure, hplace, hsaved]

end

theorem Outcome.tree_ofText (t : FileTree) (result : Except Failure String) : (Outcome.ofText t result).tree = t := by
  cases result <;> rfl

/-- The status is zero when the command is done, and only then. -/
theorem Outcome.status_eq_zero {o : Outcome} : o.status = 0 ↔ o.ending = .done := by
  unfold status
  cases o.ending <;> simp

theorem run_tokens {words : List String} {manifest document output scaleSchema : Option Path} {format : TokenFormat}
    (hwords : Request.ofWords? words = some (.run manifest (.tokens document output format scaleSchema))) :
    run rounding t words = Outcome.ofText (tokens rounding t manifest document output format scaleSchema).2
      (tokens rounding t manifest document output format scaleSchema).1 := by
  simp only [run, hwords, runCommand]

/-- When no file is given, neither in the words nor in the manifest, and the command succeeds, then with a file that
can be written the file holds what was printed before, unless that is a table: then the file makes no difference. A
path without brackets is told, so that the command succeeds again; in general its end is that of the line about the
file. -/
theorem run_tokens_saved (rounding : Color.Rounding) (t : FileTree) {words words' : List String}
    {manifest document scaleSchema : Option Path} {p : Path} {format : TokenFormat}
    (hwords : Request.ofWords? words = some (.run manifest (.tokens document none format scaleSchema)))
    (hwords' : Request.ofWords? words' = some (.run manifest (.tokens document (some p) format scaleSchema)))
    (hmanifest : ∀ m, project t manifest = .ok m → m.outputPath = none)
    (hdone : (run rounding t words).ending = .done) :
    (run rounding t words).tree = t ∧ (format = .table → run rounding t words' = run rounding t words) ∧
    (format ≠ .table → t.IsWritable p →
      (run rounding t words').tree.find? p = some (.ofText (run rounding t words).output) ∧
      ('[' ∉ p.print.toList → (run rounding t words').ending = .done) ∧
      ∃ m table colorways, compiled rounding t manifest document scaleSchema = .ok (m, table, colorways) ∧
        run rounding t words' = Outcome.ofText (run rounding t words').tree (writtenLine table p)) := by
  rw [run_tokens hwords] at hdone ⊢
  rw [run_tokens hwords']
  cases hresult : (tokens rounding t manifest document none format scaleSchema).1 with
  | error failure =>
    rw [hresult] at hdone
    cases hdone
  | ok text =>
    obtain ⟨⟨m, table, colorways, hcompiled, htext⟩, htokens⟩ := tokens_eq_ok hmanifest hresult
    rw [htokens]
    refine ⟨rfl, ?_, ?_⟩
    · rintro rfl
      rw [tokens_table hcompiled htext]
    · intro hformat hwritable
      obtain ⟨saved, hsaved, hfind⟩ := tokens_saved hformat hwritable hcompiled htext
      rw [hsaved, Outcome.tree_ofText]
      refine ⟨hfind, fun hbracket => ?_, m, table, colorways, hcompiled, rfl⟩
      obtain ⟨line, hline⟩ := exists_writtenLine table hbracket
      rw [hline]
      rfl

/-- A document with a radius, as a stylesheet in a file in a directory that has to be made. -/
theorem run_tokens_saved_radius :
    let t : FileTree := ⟨[], [(⟨.project, ["doc.json"]⟩,
      .ofText "\x7b\"radius\": \x7b\"sizes\": \x7b\"sm\": \x7b\"value\": 4\x7d\x7d\x7d\x7d")]⟩
    (run .oneByOne t ["tokens", "doc.json"]).ending = .done ∧ t.IsWritable (Path.ofText "dist/out.css") ∧
    (run .oneByOne t ["tokens", "doc.json"]).output = ":root \x7b\n    --radius-sm: 4px;\n\x7d\n" ∧
    (run .oneByOne t ["tokens", "doc.json", "-o", "dist/out.css"]).ending = .done ∧
    (run .oneByOne t ["tokens", "doc.json", "-o", "dist/out.css"]).tree.find? (Path.ofText "dist/out.css") =
      some (.ofText ":root \x7b\n    --radius-sm: 4px;\n\x7d\n") := by
  intro t
  have hwords : Request.ofWords? ["tokens", "doc.json"] =
      some (.run none (.tokens (some (Path.ofText "doc.json")) none .css none)) := rfl
  have hwords' : Request.ofWords? ["tokens", "doc.json", "-o", "dist/out.css"] =
      some (.run none (.tokens (some (Path.ofText "doc.json")) (some (Path.ofText "dist/out.css")) .css none)) := rfl
  have hmanifest : ∀ m, project t none = .ok m → m.outputPath = none := by
    intro m hm
    cases hm
    rfl
  have hdone : (run .oneByOne t ["tokens", "doc.json"]).ending = .done :=
    Outcome.status_eq_zero.mp (by decide +kernel)
  have houtput : (run .oneByOne t ["tokens", "doc.json"]).output = ":root \x7b\n    --radius-sm: 4px;\n\x7d\n" := by
    decide +kernel
  have hwritable : t.IsWritable (Path.ofText "dist/out.css") :=
    ⟨t.put ⟨.project, ["dist"]⟩ .directory, ⟨.project, ["dist", "out.css"]⟩, rfl, rfl, nofun⟩
  obtain ⟨-, -, hsaved⟩ := run_tokens_saved .oneByOne t hwords hwords' hmanifest hdone
  obtain ⟨hfind, hending, -⟩ := hsaved (by decide) hwritable
  rw [houtput] at hfind
  exact ⟨hdone, hwritable, houtput, hending (by decide), hfind⟩

/-- A table is printed, and the file that is given for it is not there afterwards. -/
theorem run_tokens_table_empty :
    let t : FileTree := ⟨[], [(⟨.project, ["doc.json"]⟩, .ofText "\x7b\x7d")]⟩
    (run .oneByOne t ["tokens", "doc.json", "-f", "table"]).ending = .done ∧ t.IsWritable (Path.ofText "out.txt") ∧
    (run .oneByOne t ["tokens", "doc.json", "-f", "table", "-o", "out.txt"]).tree.find? (Path.ofText "out.txt") =
      none := by
  intro t
  have hwritable : t.IsWritable (Path.ofText "out.txt") := ⟨t, ⟨.project, ["out.txt"]⟩, rfl, rfl, nofun⟩
  exact ⟨rfl, hwritable, rfl⟩

end DesignKit.Cli
