import DesignKit.Cli
import DesignKit.Proofs.FileTree
import DesignKit.Proofs.Render

/-! # Tokens that could not be compiled

The command for tokens writes only after everything has been compiled and put into the form that is asked for.
So when the manifest, the document, the scale schema or a colorway is at fault, nothing is printed and the tree is
as it was; and when directories or the file cannot be made, no file has changed. -/

namespace DesignKit.Cli
open FileTree

variable {rounding : Color.Rounding} {t : FileTree}

theorem sameFiles_saveWithin {p : Path} {text : String} {failure : Failure}
    (h : (saveWithin t p text).1 = .error failure) : t.SameFiles (saveWithin t p text).2 := by
  have hmade : t.SameFiles (t.makeDirectories p.parent).2 := sameFiles_makeDirectories p.parent
  cases hmake : t.makeDirectories p.parent with
  | mk result made =>
    rw [hmake] at hmade
    cases result with
    | error f =>
      have hsaved : saveWithin t p text = (.error (.ofFault f), made) := by
        simp only [saveWithin, hmake]
      rwa [hsaved]
    | ok _ =>
      cases hsave : save made p text with
      | error f =>
        have hsaved : saveWithin t p text = (.error f, made) := by
          simp only [saveWithin, hmake, hsave]
        rwa [hsaved]
      | ok written =>
        simp only [saveWithin, hmake, hsave] at h
        cases h

/-- Why tokens cannot be compiled: the manifest is at fault, it names no document, or the document, the scale schema,
the tokens or the colorways are. -/
inductive Uncompiled (rounding : Color.Rounding) (t : FileTree) (manifest document scaleSchema : Option Path) : Prop
  | manifest {failure : Failure} (h : project t manifest = .error failure)
  | unnamed {m : Manifest} (hm : project t manifest = .ok m) (h : tokensSource m document = none)
  | document {m : Manifest} {source : Path} {fault : Fault} (hm : project t manifest = .ok m)
      (hs : tokensSource m document = some source) (h : TokenDocument.load t source = .error fault)
  | scaleSchema {m : Manifest} {fault : Fault} (hm : project t manifest = .ok m)
      (h : scaleSchemaIn t (scaleSchemaSource m scaleSchema) = .error fault)
  | tokens {m : Manifest} {source : Path} {doc : Members} {schema : ScaleSchema} {fault : Fault}
      (hm : project t manifest = .ok m) (hs : tokensSource m document = some source)
      (hd : TokenDocument.load t source = .ok doc)
      (hschema : scaleSchemaIn t (scaleSchemaSource m scaleSchema) = .ok schema)
      (h : TokenDocument.compile rounding schema (.object doc) = .error fault)
  | colorways {m : Manifest} {source : Path} {doc : Members} {fault : Fault}
      (hm : project t manifest = .ok m) (hs : tokensSource m document = some source)
      (hd : TokenDocument.load t source = .ok doc) (h : Colorway.ofDocument (.object doc) = .error fault)

section
variable {manifest document output scaleSchema : Option Path} {format : TokenFormat} {failure : Failure}

theorem orFail_eq_ok {α : Type} {x : Except Fault α} {a : α} (h : orFail x = .ok a) : x = .ok a := by
  cases x with
  | error fault => cases h
  | ok b =>
    cases h
    rfl

/-- What could be compiled went through all the stages. -/
theorem compiled_eq_ok {m : Manifest} {table : Table} {colorways : List Colorway}
    (h : compiled rounding t manifest document scaleSchema = .ok (m, table, colorways)) :
    ∃ source doc schema, project t manifest = .ok m ∧ tokensSource m document = some source ∧
      TokenDocument.load t source = .ok doc ∧
      scaleSchemaIn t (scaleSchemaSource m scaleSchema) = .ok schema ∧
      TokenDocument.compile rounding schema (.object doc) = .ok table ∧
      Colorway.ofDocument (.object doc) = .ok colorways := by
  obtain ⟨m', hm, h⟩ := except_bind_eq_ok.mp h
  cases hs : tokensSource m' document with
  | none =>
    simp only [hs] at h
    cases h
  | some source =>
    simp only [hs] at h
    obtain ⟨tokens, htokens, h⟩ := except_bind_eq_ok.mp h
    cases h
    obtain ⟨doc, hd, htokens⟩ := except_bind_eq_ok.mp (orFail_eq_ok htokens)
    obtain ⟨schema, hschema, htokens⟩ := except_bind_eq_ok.mp htokens
    obtain ⟨table', htable, htokens⟩ := except_bind_eq_ok.mp htokens
    obtain ⟨colorways', hcolorways, htokens⟩ := except_bind_eq_ok.mp htokens
    cases htokens
    exact ⟨source, doc, schema, hm, hs, hd, hschema, htable, hcolorways⟩

theorem error_of_uncompiled (h : Uncompiled rounding t manifest document scaleSchema) :
    ∃ failure, compiled rounding t manifest document scaleSchema = .error failure := by
  cases hcompiled : compiled rounding t manifest document scaleSchema with
  | error failure => exact ⟨failure, rfl⟩
  | ok result =>
    obtain ⟨m, table, colorways⟩ := result
    obtain ⟨source, doc, schema, hm, hs, hd, hschema, htable, hcolorways⟩ := compiled_eq_ok hcompiled
    cases h <;> simp_all

theorem tokens_of_error (h : compiled rounding t manifest document scaleSchema = .error failure) :
    tokens rounding t manifest document output format scaleSchema = (.error failure, t) := by
  simp only [tokens, h]
  rfl

/-- A failure comes before the file is written, or it is that of the line about the file. -/
theorem tokens_eq_error (h : (tokens rounding t manifest document output format scaleSchema).1 = .error failure) :
    t.SameFiles (tokens rounding t manifest document output format scaleSchema).2 ∨
      ∃ m table colorways p, compiled rounding t manifest document scaleSchema = .ok (m, table, colorways) ∧
        tokensOutput m output format = some p ∧ writtenLine table p = .error failure := by
  cases hcompiled : compiled rounding t manifest document scaleSchema with
  | error f =>
    rw [tokens_of_error hcompiled]
    exact .inl (.refl t)
  | ok result =>
    obtain ⟨m, table, colorways⟩ := result
    cases htext : tokensText format table colorways with
    | error f =>
      have htokens : tokens rounding t manifest document output format scaleSchema = (.error f, t) := by
        simp only [tokens, hcompiled, bind, Except.bind, htext]
      rw [htokens]
      exact .inl (.refl t)
    | ok text =>
      cases hplace : tokensOutput m output format with
      | none =>
        have htokens : tokens rounding t manifest document output format scaleSchema = (.ok text, t) := by
          simp only [tokens, hcompiled, bind, Except.bind, htext, pure, Except.pure, hplace]
        rw [htokens]
        exact .inl (.refl t)
      | some p =>
        cases hsaved : saveWithin t p text with
        | mk saved made =>
          cases saved with
          | error f =>
            have htokens : tokens rounding t manifest document output format scaleSchema = (.error f, made) := by
              simp only [tokens, hcompiled, bind, Except.bind, htext, pure, Except.pure, hplace, hsaved]
            have hfiles : t.SameFiles (saveWithin t p text).2 := sameFiles_saveWithin (by rw [hsaved])
            rw [htokens]
            rw [hsaved] at hfiles
            exact .inl hfiles
          | ok _ =>
            have htokens : tokens rounding t manifest document output format scaleSchema =
                (writtenLine table p, made) := by
              simp only [tokens, hcompiled, bind, Except.bind, htext, pure, Except.pure, hplace, hsaved]
            rw [htokens] at h
            exact .inr ⟨m, table, colorways, p, rfl, hplace, h⟩

end

/-- Where tokens cannot be compiled, nothing is printed and the tree stays as it was. However else the command
fails, nothing is printed and no file has changed, unless everything was compiled and written and only the line about
the file cannot be shown. -/
theorem run_tokens_failed (rounding : Color.Rounding) (t : FileTree) {words : List String}
    {manifest document output scaleSchema : Option Path} {format : TokenFormat}
    (hwords : Request.ofWords? words = some (.run manifest (.tokens document output format scaleSchema))) :
    (Uncompiled rounding t manifest document scaleSchema →
      ∃ failure, run rounding t words = ⟨"", .failed failure, [], t⟩) ∧
    ∀ failure, (run rounding t words).ending = .failed failure → (run rounding t words).output = "" ∧
      (t.SameFiles (run rounding t words).tree ∨
        ¬ Uncompiled rounding t manifest document scaleSchema ∧ ∃ m table colorways p,
          compiled rounding t manifest document scaleSchema = .ok (m, table, colorways) ∧
          tokensOutput m output format = some p ∧ writtenLine table p = .error failure) := by
  have hrun : run rounding t words = Outcome.ofText (tokens rounding t manifest document output format scaleSchema).2
      (tokens rounding t manifest document output format scaleSchema).1 := by
    simp only [run, hwords, runCommand]
  rw [hrun]
  constructor
  · intro h
    obtain ⟨failure, hfailure⟩ := error_of_uncompiled h
    refine ⟨failure, ?_⟩
    rw [tokens_of_error hfailure]
    rfl
  · intro failure hending
    cases hresult : (tokens rounding t manifest document output format scaleSchema).1 with
    | ok text =>
      rw [hresult] at hending
      cases hending
    | error f =>
      rw [hresult] at hending
      cases hending
      refine ⟨rfl, ?_⟩
      rcases tokens_eq_error hresult with hfiles | ⟨m, table, colorways, p, hcompiled, hplace, hline⟩
      · exact .inl hfiles
      · refine .inr ⟨fun h => ?_, m, table, colorways, p, hcompiled, hplace, hline⟩
        obtain ⟨f, hf⟩ := error_of_uncompiled h
        rw [hcompiled] at hf
        cases hf

/-- A document that is a list, with a file to write to that is there already. -/
theorem run_tokens_failed_list :
    let t : FileTree := ⟨[], [(⟨.project, ["out.css"]⟩, .ofText "body"), (⟨.project, ["list.json"]⟩, .ofText "[]")]⟩
    Request.ofWords? ["tokens", "list.json", "-o", "out.css"] =
      some (.run none (.tokens (some (Path.ofText "list.json")) (some (Path.ofText "out.css")) .css none)) ∧
    Uncompiled .oneByOne t none (some (Path.ofText "list.json")) none ∧
    ∃ failure, run .oneByOne t ["tokens", "list.json", "-o", "out.css"] = ⟨"", .failed failure, [], t⟩ := by
  intro t
  have hwords : Request.ofWords? ["tokens", "list.json", "-o", "out.css"] =
      some (.run none (.tokens (some (Path.ofText "list.json")) (some (Path.ofText "out.css")) .css none)) := rfl
  have huncompiled : Uncompiled .oneByOne t none (some (Path.ofText "list.json")) none := .document rfl rfl rfl
  exact ⟨hwords, huncompiled, (run_tokens_failed .oneByOne t hwords).1 huncompiled⟩

end DesignKit.Cli
