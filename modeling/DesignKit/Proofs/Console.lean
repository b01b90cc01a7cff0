import DesignKit.Console.Styled
import Mathlib.Data.List.TakeWhile

/-! # Texts between tags

A text without an opening bracket has no tag, so it is one part of the styled text around it, up to the next tag. -/

namespace DesignKit.Console

theorem foldr_addChar_nil {cs : List Char} (h : cs ≠ []) : cs.foldr addChar [] = [.plain cs] := by
  induction cs with
  | nil => exact absurd rfl h
  | cons c rest ih =>
    cases rest with
    | nil => rfl
    | cons d more => rw [List.foldr_cons, ih (List.cons_ne_nil d more), addChar]

theorem foldr_addChar_tag {cs : List Char} (h : cs ≠ []) (slashes : Nat) (body : List Char) (ps : List Piece) :
    cs.foldr addChar (.tag slashes body :: ps) = .plain cs :: .tag slashes body :: ps := by
  induction cs with
  | nil => exact absurd rfl h
  | cons c rest ih =>
    cases rest with
    | nil => rfl
    | cons d more => rw [List.foldr_cons, ih (List.cons_ne_nil d more), addChar]

theorem tagBody?_eq_none {cs : List Char} (h : cs.head? ≠ some '[') : tagBody? cs = none := by
  unfold tagBody?
  split
  · exact absurd rfl h
  · rfl

theorem pieces_plain {cs : List Char} (h : '[' ∉ cs) : pieces 0 cs = cs.foldr addChar [] := by
  induction cs with
  | nil => rfl
  | cons c rest ih =>
    have hnone : tagBody? ((c :: rest).drop ((c :: rest).takeWhile (· == '\\')).length) = none := by
      refine tagBody?_eq_none fun hhead => h ?_
      exact List.mem_of_mem_drop (List.mem_of_mem_head? hhead)
    simp only [pieces, hnone]
    rw [ih fun hrest => h (List.mem_cons_of_mem c hrest), List.foldr_cons]

theorem pieces_plain_append {cs rest : List Char} (hbracket : '[' ∉ cs) (hslash : '\\' ∉ cs) :
    pieces 0 (cs ++ rest) = cs.foldr addChar (pieces 0 rest) := by
  induction cs with
  | nil => rfl
  | cons c more ih =>
    simp only [List.mem_cons, not_or] at hbracket hslash
    have hc : (c == '\\') = false := beq_false_of_ne fun h => hslash.1 h.symm
    have hnone : tagBody? (c :: (more ++ rest)) = none :=
      tagBody?_eq_none fun hhead => hbracket.1 (Option.some.inj hhead).symm
    simp only [List.cons_append, pieces, List.takeWhile_cons, hc, Bool.false_eq_true, if_false, List.length_nil,
      List.drop_zero, hnone]
    rw [ih hbracket.2 hslash.2, List.foldr_cons]

/-! ### Styles that begin and end -/

/-- A word that is no colour in brackets says something or nothing, and is no fault. -/
theorem exists_say? (s : Style) {word : String} (h : inBrackets? "rgb" word.toList = none) : ∃ said, s.say? word = .ok said := by
  have hcolor : ∃ b, isColor word.toList = .ok b := by
    unfold isColor
    rw [h]
    exact ⟨_, rfl⟩
  obtain ⟨b, hb⟩ := hcolor
  unfold Style.say?
  cases feature? word with
  | some feature => exact ⟨_, rfl⟩
  | none =>
    rw [hb]
    cases b with
    | true => exact ⟨_, rfl⟩
    | false => exact ⟨_, rfl⟩

theorem exists_styleName {text : List Char} {word : String} (hwords : (Text.words text).map String.ofList = [word])
    (h : inBrackets? "rgb" (Text.lowerAll word).toList = none) : ∃ name, styleName text = .ok name := by
  obtain ⟨said, hsaid⟩ := exists_say? Style.plain h
  have hall : Style.plain.sayAll? ((Text.words text).map String.ofList) = .ok said := by
    rw [hwords]
    exact hsaid
  unfold styleName
  rw [hall]
  cases said with
  | some style => exact ⟨_, rfl⟩
  | none => exact ⟨_, rfl⟩

theorem ended_begun (name : String) : ended name [⟨name, []⟩] = .ok [] := by
  have hending : ending? name [⟨name, []⟩] = some ⟨name, []⟩ := by
    unfold ending?
    split
    · rfl
    · simp
  unfold ended
  rw [hending]
  split
  · rename_i h
    cases h
  · rename_i b h
    cases h
    have hmay : (Begun.mk name []).mayEnd = true := by simp [Begun.mayEnd]
    rw [if_pos hmay]
    split <;> simp

section
variable {name : List Char} {full : String} {styles : List Begun} (hvalue : '=' ∉ name) (hfull : styleName name = .ok full)
include hvalue hfull

theorem behindTag_name (hslash : name.head? ≠ some '/') : behindTag name styles = .ok (⟨full, []⟩ :: styles) := by
  have hall : ∀ c ∈ name, (c != '=') = true := fun c hc => by
    simpa using fun h : c = '=' => hvalue (h ▸ hc)
  unfold behindTag
  rw [List.takeWhile_eq_self_iff.mpr hall, List.dropWhile_eq_nil_iff.mpr hall]
  split
  · exact absurd rfl hslash
  · rw [hfull]
    rfl

theorem behindTag_slash (hblank : name.all Text.isBlank = false) : behindTag ('/' :: name) styles = ended full styles := by
  have hall : ∀ c ∈ '/' :: name, (c != '=') = true := List.forall_mem_cons.mpr ⟨rfl, fun c hc => by
    simpa using fun h : c = '=' => hvalue (h ▸ hc)⟩
  unfold behindTag
  rw [List.takeWhile_eq_self_iff.mpr hall]
  simp only [hblank, Bool.false_eq_true, if_false, hfull]
  rfl

end

theorem shownChars_tag {styles more : List Begun} {body cs : List Char} {rest : List Piece}
    (hbody : behindTag body styles = .ok more) (hrest : shownChars more rest = .ok cs) :
    shownChars styles (.tag 0 body :: rest) = .ok cs := by
  simp only [shownChars, hbody]
  show (shownChars more rest >>= fun shown => pure (backslashes (0 / 2) ++ shown)) = _
  rw [hrest]
  rfl

theorem shownChars_plain {styles : List Begun} {cs more : List Char} {rest : List Piece}
    (hrest : shownChars styles rest = .ok more) :
    shownChars styles (.plain cs :: rest) = .ok (withEmoji (bareBrackets cs) ++ more) := by
  simp only [shownChars, hrest]
  rfl

/-- A text in green, and a text without brackets behind it, can be shown. -/
theorem exists_shown_green {inside behind : List Char} (hbracket : '[' ∉ inside) (hslash : '\\' ∉ inside)
    (hinside : inside ≠ []) (hbehind : '[' ∉ behind) (hne : behind ≠ []) :
    ∃ s, shown (String.ofList ("[green]".toList ++ (inside ++ ("[/green]".toList ++ behind)))) = .ok s := by
  have hopening (cs : List Char) : pieces 0 ("[green]".toList ++ cs) = .tag 0 "green".toList :: pieces 0 cs := rfl
  have hclosing (cs : List Char) : pieces 0 ("[/green]".toList ++ cs) = .tag 0 ('/' :: "green".toList) :: pieces 0 cs := rfl
  have hpieces : pieces 0 ("[green]".toList ++ (inside ++ ("[/green]".toList ++ behind))) =
      [.tag 0 "green".toList, .plain inside, .tag 0 ('/' :: "green".toList), .plain behind] := by
    rw [hopening, pieces_plain_append hbracket hslash, hclosing, foldr_addChar_tag hinside, pieces_plain hbehind,
      foldr_addChar_nil hne]
  obtain ⟨name, hname⟩ : ∃ name, styleName "green".toList = .ok name :=
    @exists_styleName _ "green" (by decide +kernel) (by decide +kernel)
  have hbegin : behindTag "green".toList [] = .ok [⟨name, []⟩] := behindTag_name (by decide) hname (by decide)
  have hend : behindTag ('/' :: "green".toList) [⟨name, []⟩] = .ok [] := by
    rw [behindTag_slash (by decide) hname (by decide), ended_begun]
  unfold shown
  rw [String.toList_ofList, hpieces]
  have hlast : shownChars [] [.plain behind] = .ok _ := shownChars_plain rfl
  rw [shownChars_tag hbegin (shownChars_plain (shownChars_tag hend hlast))]
  exact ⟨_, rfl⟩

end DesignKit.Console
