import DesignKit.Proofs.ScaleSchema
import DesignKit.Proofs.Token.Colorways

/-! # Tokens of files

Documents and schemas that are read from files have each key once in an object. So what is known of such documents
holds of whatever is compiled from files. -/

namespace DesignKit

namespace TokenDocument
variable {doc : Members}

theorem distinctKeys_of_parse {text : String} {source : Option String} (h : parse text source = .ok doc) :
    (Value.object doc).DistinctKeys := by
  unfold parse at h
  simp only at h
  split at h
  · cases h
  · rename_i hread
    cases h
    exact Json.distinctKeys_of_read hread
  · cases h

theorem distinctKeys_of_load {t : FileTree} {p : Path} (h : load t p = .ok doc) : (Value.object doc).DistinctKeys := by
  unfold load at h
  split at h
  · exact distinctKeys_of_parse h
  · split at h
    · cases h
    · cases h

end TokenDocument

theorem except_mapError_eq_ok {ε ε' α : Type} {x : Except ε α} {f : ε → ε'} {a : α} :
    x.mapError f = .ok a ↔ x = .ok a := by
  cases x <;> simp [Except.mapError]

namespace ScaleSchema

theorem distinctKeys_groupsOf {doc : Members} (h : (Value.object doc).DistinctKeys) :
    (Value.object (groupsOf doc)).DistinctKeys := by
  unfold groupsOf
  split
  · rename_i hsizes
    exact hsizes ▸ h.get "sizes"
  · exact h

/-- A file holds a schema when the groups of its document give the positions of the schema. -/
theorem load_eq_ok {t : FileTree} {p : Path} {schema : ScaleSchema} :
    load t p = .ok schema ↔ ∃ doc, TokenDocument.load t p = .ok doc ∧
      ∀ part : ScalePart, Filled (groupsOf doc) part (part.positions schema) := by
  have hgroups {doc : Members} (hdoc : TokenDocument.load t p = .ok doc) : (Value.object (groupsOf doc)).DistinctKeys :=
    distinctKeys_groupsOf (TokenDocument.distinctKeys_of_load hdoc)
  rw [load, except_bind_eq_ok]
  constructor
  · rintro ⟨doc, hdoc, h⟩
    exact ⟨doc, hdoc, (ofValue_eq_ok (hgroups hdoc)).mp (except_mapError_eq_ok.mp h)⟩
  · rintro ⟨doc, hdoc, h⟩
    exact ⟨doc, hdoc, except_mapError_eq_ok.mpr ((ofValue_eq_ok (hgroups hdoc)).mpr h)⟩

end ScaleSchema

/-- The colorways that files compile to have names of their own and are all given out, and with the standard scales
the tokens that are no colors have names of their own too. -/
theorem Cli.nodup_names_of_compileFiles {rounding : Color.Rounding} {t : FileTree} {document : Path}
    {scaleSchema : Option Path} {table : Table} {colorways : List Colorway}
    (h : compileFiles rounding t document scaleSchema = .ok (table, colorways)) :
    (colorways.map (·.name)).Nodup ∧
    tokensValue table colorways = .object [("tokens", .list (table.map tokenValue)),
      ("colorways", .object (colorways.map Colorway.asMember))] ∧
    (scaleSchema = none → ((table.filter TokenDocument.isPlain).map (·.name)).Nodup) := by
  obtain ⟨doc, hdoc, h⟩ := except_bind_eq_ok.mp h
  obtain ⟨schema, hschema, h⟩ := except_bind_eq_ok.mp h
  obtain ⟨table', htable, h⟩ := except_bind_eq_ok.mp h
  obtain ⟨colorways', hcolorways, h⟩ := except_bind_eq_ok.mp h
  cases h
  have hkeys := TokenDocument.distinctKeys_of_load hdoc
  have hnames := Colorway.nodup_names_ofDocument hkeys hcolorways
  refine ⟨hnames, Colorway.tokensValue_of_nodup hnames table, ?_⟩
  rintro rfl
  cases hschema
  exact TokenDocument.nodup_names_plain hkeys htable

end DesignKit
