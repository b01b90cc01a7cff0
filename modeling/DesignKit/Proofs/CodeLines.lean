import DesignKit.Proofs.ClassList
import DesignKit.Proofs.Escape
import DesignKit.Proofs.Html.Element
import DesignKit.Proofs.Precedence
import DesignKit.Proofs.Wrapper

/-! # The lines of a code block

The code element of a block holds the escaped text of the code: with line numbers one line at a time, each in a span
of its own, otherwise in one piece. Both are the same text, from its first character to its last. -/

namespace DesignKit

/-- No part of a list that is split has an element at which it is split. -/
theorem not_of_mem_splitOnP {α : Type} {p : α → Bool} {l part : List α} (h : part ∈ l.splitOnP p) :
    ∀ a ∈ part, p a = false := by
  induction l generalizing part with
  | nil =>
    obtain rfl := List.mem_singleton.mp h
    exact List.forall_mem_nil _
  | cons first rest ih =>
    rw [List.splitOnP_cons_eq_if_modifyHead] at h
    by_cases hfirst : p first = true
    · rw [if_pos hfirst] at h
      rcases List.mem_cons.mp h with rfl | h
      · exact List.forall_mem_nil _
      · exact ih h
    · rw [if_neg hfirst] at h
      obtain ⟨head, others, hparts⟩ := List.exists_cons_of_ne_nil (List.splitOnP_ne_nil p rest)
      rw [hparts, List.modifyHead_cons] at h
      rcases List.mem_cons.mp h with rfl | h
      · have hhead := ih (by rw [hparts]; exact List.mem_cons_self)
        exact List.forall_mem_cons.mpr ⟨Bool.eq_false_iff.mpr hfirst, hhead⟩
      · exact ih (by rw [hparts]; exact List.mem_cons_of_mem _ h)

namespace CodeBlock
open Markup

/-- The lines of a text, each escaped. -/
def escapedLines (text : String) : List String :=
  (text.toList.splitOn '\n').map fun line => Text.escape (String.ofList line)

theorem intercalate_escapedLines (text : String) : "\n".intercalate (escapedLines text) = Text.escape text := by
  rw [← String.toList_inj, String.toList_intercalate]
  have hlines : (escapedLines text).map String.toList = (text.toList.splitOn '\n').map Text.escapeChars := by
    simp [escapedLines, Text.escape, Function.comp_def]
  have hnewline : "\n".toList = ['\n'] := rfl
  rw [hlines, hnewline, ← Text.escapeChars_intercalate, List.intercalate_splitOn, Text.escape, String.toList_ofList]

theorem newline_not_mem_escapedLines {text content : String} (h : content ∈ escapedLines text) : '\n' ∉ content.toList := by
  obtain ⟨line, hline, rfl⟩ := List.mem_map.mp h
  rw [Text.escape, String.toList_ofList, String.toList_ofList]
  refine Text.newline_not_mem_escapeChars fun hmem => ?_
  rw [List.splitOn_eq_splitOnP] at hline
  have hbreak := not_of_mem_splitOnP hline '\n' hmem
  cases hbreak

/-- The printed span of a line of code under a number, with the line break behind it. -/
def lineSpan (number content : String) : String :=
  "<span class=\"anti-code-block__line\" data-line=\"" ++ number ++ "\">" ++ content ++ "</span>\n"

theorem chars_lineSpan {number : String} (h : Text.escapeChars number.toList = number.toList) (line : String) :
    (Node.element "span" [.classed "anti-code-block__line", .attr "data-line" number] [.text line]).chars ++ ['\n'] =
      (lineSpan number (Text.escape line)).toList := by
  have hclass : (Item.classed "anti-code-block__line").chars = " class=\"anti-code-block__line\"".toList := by decide
  have hline : (Item.attr "data-line" number).chars = " data-line=\"".toList ++ number.toList ++ ['"'] := by
    simp [Item.chars, h]
  unfold lineSpan
  simp [Node.chars, chars, hclass, hline, Text.escape]

theorem print_numberedLines (n : Nat) (lines : List String) : print (numberedLines n lines) =
    String.join (((lines.map Text.escape).zipIdx n).map fun (content, number) => lineSpan (Number.intText number) content) := by
  induction lines generalizing n with
  | nil => rfl
  | cons line rest ih =>
    have hspan := chars_lineSpan (Text.escapeChars_intText n) line
    have hrest := congrArg String.toList (ih (n + 1))
    rw [print, String.toList_ofList] at hrest
    rw [List.map_cons, List.zipIdx_cons, List.map_cons, String.join_cons, ← String.toList_inj, String.toList_append,
      ← hspan, ← hrest, print, String.toList_ofList]
    simp [numberedLines, chars, chars_newline]

/-! ### The code element -/

theorem print_codeContent_plain (code : Value) : print (codeContent false code) = Text.escape code.print := by
  rw [codeContent, if_neg Bool.false_ne_true, print, chars, chars, List.append_nil]
  rfl

theorem print_codeContent_numbered (code : Value) : print (codeContent true code) =
    String.join (((escapedLines code.print).zipIdx 1).map fun (content, number) =>
      lineSpan (Number.intText number) content) := by
  have hlines : (Helper.lines (.text code.print)).map Text.escape = escapedLines code.print := by
    rw [escapedLines, Helper.lines, List.map_map]
    · rfl
    · exact nofun
  rw [codeContent, if_pos rfl, print_numberedLines, hlines]

section
variable (bag : Members) (code : Value)

theorem codeLine_elements : (within "pre" (codeLine bag code)).elements "code" =
    [⟨[.classed "anti-code-block__code"], codeContent (Helper.flag (bag.get "line_numbers")) code⟩] := by
  rw [codeLine, within, elements_line_self, List.flatMap_singleton, elements_element_self, elements_nil]

theorem headerLines_within (title language : Value) : within "pre" (headerLines title language) = [] := by
  unfold headerLines
  cases title.truthy || language.truthy with
  | false => rfl
  | true => exact within_blockLine_ne "pre" (by decide) _ _ _

/-- A block ends with its code element. -/
theorem print_block (items : List Item) (header : Markup) :
    ∃ above, print [block 0 "div" items (header ++ codeLine bag code)] = above ++ "<code class=\"anti-code-block__code\">" ++
      print (codeContent (Helper.flag (bag.get "line_numbers")) code) ++ "</code></pre>\n</div>" := by
  let preItems := .classed "anti-code-block__pre" :: Item.given (bag.get "max_height").truthy
    (.attr "style" ("max-height: " ++ (bag.get "max_height").print ++ "; overflow-y: auto;"))
  let above := "<div".toList ++ items.flatMap Item.chars ++ ">\n".toList ++ chars header ++ "    <pre".toList ++
    preItems.flatMap Item.chars ++ ['>']
  have hclass : (Item.classed "anti-code-block__code").chars = " class=\"anti-code-block__code\"".toList := by decide
  refine ⟨String.ofList above, ?_⟩
  rw [← String.toList_inj]
  simp [print, chars, Node.chars, block, codeLine, line, chars_newline, chars_pad, hclass, above, preItems, List.replicate]

end

theorem template_eq_ok (c : Composition) {bag : Members} (h : (bag.get "code").truthy = true) :
    ∃ items header, (template c bag).result = .ok [block 0 "div" items (header ++ codeLine bag (bag.get "code"))] ∧
      within "pre" header = [] := by
  have hclasses := Helper.classes_named [("anti-code-block", true),
    ("anti-code-block--has-title", (bag.get "title").truthy),
    ("anti-code-block--has-line-numbers", Helper.flag (bag.get "line_numbers"))]
  simp only [template, if_pos h]
  exact ⟨_, _, Render.bind_eq_ok.mpr ⟨_, hclasses, rfl⟩, headerLines_within _ _⟩

/-- The code element of a block, at the end of what is printed, holds the escaped text of the code. With line numbers it
holds one span for each line, under the numbers from one on, and the contents of the spans are the lines of the same
text. -/
theorem code_of_component {r : Renderer} {name : String} (hr : r.registry.find? name = some (.bundled .codeBlock))
    (levels : Nat) {props : Value} {bag : Members} (hbag : (r.fill name props).result = .ok bag)
    (hcode : (bag.get "code").truthy = true) :
    ∃ m e above, (r.component (levels + 1) (.text name) props).result = .ok m ∧
      (within "pre" (within "div" m)).elements "code" = [e] ∧
      m.print = above ++ "<code class=\"anti-code-block__code\">" ++ e.content.print ++ "</code></pre>\n</div>" ∧
      (Helper.flag (bag.get "line_numbers") = false → e.content.print = Text.escape (bag.get "code").print) ∧
      (Helper.flag (bag.get "line_numbers") = true → ∃ contents : List String,
        e.content.print = String.join ((contents.zipIdx 1).map fun (content, number) =>
          lineSpan (Number.intText number) content) ∧
        contents.length = ((bag.get "code").print.toList.splitOn '\n').length ∧
        (∀ content ∈ contents, '\n' ∉ content.toList) ∧
        "\n".intercalate contents = Text.escape (bag.get "code").print) := by
  obtain ⟨items, header, htemplate, hheader⟩ := template_eq_ok (r.composition (r.component levels)) hcode
  obtain ⟨above, hprint⟩ := print_block bag (bag.get "code") items header
  have hm := (Renderer.result_component hr hbag levels).trans htemplate
  let content := codeContent (Helper.flag (bag.get "line_numbers")) (bag.get "code")
  refine ⟨_, ⟨[.classed "anti-code-block__code"], content⟩, above, hm, ?_, hprint, fun hplain => ?_, fun hnumbered => ?_⟩
  · simp only [within_block_self, List.cons_append, within_newline_cons, within_append, hheader, within_pad_cons, within_nil,
      List.nil_append, List.append_nil]
    exact codeLine_elements bag _
  · show print (codeContent (Helper.flag (bag.get "line_numbers")) (bag.get "code")) = _
    rw [hplain]
    exact print_codeContent_plain _
  · refine ⟨escapedLines (bag.get "code").print, ?_, List.length_map _, fun _ => newline_not_mem_escapedLines,
      intercalate_escapedLines _⟩
    show print (codeContent (Helper.flag (bag.get "line_numbers")) (bag.get "code")) = _
    rw [hnumbered]
    exact print_codeContent_numbered _

/-- Code that starts and ends with a line break and has markup characters in it. -/
def codeProps (numbered : Bool) : Members :=
  [("code", .text "\n<a>\n\n\"b\" & c\n"), ("line_numbers", .bool numbered), ("title", .text "T")]

theorem fill_codeProps (numbered : Bool) : ((Renderer.bundle .refuse).fill "code-block"
    (.object (codeProps numbered))).result = .ok (schema.handed (codeProps numbered)) := by
  cases numbered <;> rfl

theorem code_of_component_lines :
    (∃ m above, ((Renderer.bundle .refuse).component 1 (.text "code-block") (.object (codeProps false))).result = .ok m ∧
      m.print = above ++ "<code class=\"anti-code-block__code\">" ++ "\n&lt;a&gt;\n\n&#34;b&#34; &amp; c\n" ++
        "</code></pre>\n</div>") ∧
    ∃ m e contents, ((Renderer.bundle .refuse).component 1 (.text "code-block") (.object (codeProps true))).result = .ok m ∧
      (within "pre" (within "div" m)).elements "code" = [e] ∧ List.length contents = 5 ∧
      e.content.print = String.join ((contents.zipIdx 1).map fun (content, number) =>
        lineSpan (Number.intText number) content) ∧
      "\n".intercalate contents = "\n&lt;a&gt;\n\n&#34;b&#34; &amp; c\n" := by
  constructor
  · obtain ⟨m, e, above, hm, -, hprint, hplain, -⟩ := code_of_component (r := Renderer.bundle .refuse) rfl 0
      (fill_codeProps false) (by decide)
    refine ⟨m, above, hm, ?_⟩
    rw [hprint, hplain rfl]
    exact congrArg (above ++ "<code class=\"anti-code-block__code\">" ++ · ++ "</code></pre>\n</div>") (by decide)
  · obtain ⟨m, e, above, hm, he, -, -, hnumbered⟩ := code_of_component (r := Renderer.bundle .refuse) rfl 0
      (fill_codeProps true) (by decide)
    obtain ⟨contents, hspans, hlength, -, hjoined⟩ := hnumbered rfl
    exact ⟨m, e, contents, hm, he, hlength.trans (by decide), hspans, hjoined.trans (by decide)⟩

end CodeBlock
end DesignKit
