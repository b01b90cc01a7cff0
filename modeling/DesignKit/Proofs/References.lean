import DesignKit.Proofs.ClassList
import DesignKit.Proofs.Html.Tags
import DesignKit.Proofs.Html.Templates
import DesignKit.Proofs.Precedence
import Mathlib.Data.List.Nodup

/-! # References within a field

The parts of a field refer to each other by ids. Wherever a page of a field has a reference, the part that it names
is on the page too, no two parts have the same id, and the messages that a field names as its description are those
that it shows. -/

namespace DesignKit
open Markup

/-! ### References on a page -/

namespace Html

/-- The values of an attribute. -/
def valuesOf (name : String) (attributes : List (String × String)) : List String :=
  (attributes.filter (·.1 == name)).map (·.2)

/-- The tokens of a value: what stands between its blanks. -/
def tokens (value : String) : List String :=
  ((value.toList.splitOnP ClassList.separates).filter (!·.isEmpty)).map String.ofList

/-- The ids on a page. -/
def ids (page : List Tag) : List String :=
  page.flatMap fun tag => valuesOf "id" tag.attributes

/-- What the labels of a page are for. -/
def targets (page : List Tag) : List (List String) :=
  (page.filter (·.name == "label")).map fun tag => valuesOf "for" tag.attributes

/-- What is named as a description on a page. -/
def descriptions (page : List Tag) : List String :=
  page.flatMap fun tag => (valuesOf "aria-describedby" tag.attributes).flatMap tokens

/-- The paragraphs of a page with a class list. -/
def paragraphs (list : String) (page : List Tag) : List Tag :=
  (page.filter (·.name == "p")).filter (valuesOf "class" ·.attributes == [list])

section
variable (name : String)

@[simp] theorem valuesOf_nil : valuesOf name [] = [] := rfl

@[simp] theorem valuesOf_cons (key value : String) (rest : List (String × String)) :
    valuesOf name ((key, value) :: rest) = if key = name then value :: valuesOf name rest else valuesOf name rest := by
  by_cases h : key = name <;> simp [valuesOf, h]

@[simp] theorem valuesOf_append (attributes more : List (String × String)) :
    valuesOf name (attributes ++ more) = valuesOf name attributes ++ valuesOf name more := by
  simp [valuesOf]

@[simp] theorem valuesOf_given (condition : Bool) (item : Item) :
    valuesOf name (Item.attributes (Item.given condition item)) =
      if condition then valuesOf name (Item.attributes [item]) else [] := by
  cases condition <;> rfl

end

/-! ### Tokens -/

/-- A token: it is not empty and has no blanks. -/
def IsToken (word : String) : Prop :=
  word ≠ "" ∧ word.toList.any ClassList.separates = false

theorem tokens_of_isToken {word : String} (h : IsToken word) : tokens word = [word] := by
  have hparts : word.toList.splitOnP ClassList.separates = [word.toList] :=
    List.splitOnP_eq_singleton fun c hc => eq_false_of_ne_true (List.any_eq_false.mp h.2 c hc)
  have hfull : word.toList.isEmpty = false := by
    simpa [List.isEmpty_eq_false_iff] using h.1
  simp [tokens, hparts, hfull]

/-- Tokens with blanks between them are read as these tokens. -/
theorem tokens_intercalate {words : List String} (h : ∀ word ∈ words, IsToken word) :
    tokens (" ".intercalate words) = words := by
  induction words with
  | nil => rfl
  | cons first rest ih =>
    obtain ⟨hfirst, hrest⟩ := List.forall_mem_cons.mp h
    cases rest with
    | nil =>
      rw [String.intercalate_singleton]
      exact tokens_of_isToken hfirst
    | cons second others =>
      have hchars : (" ".intercalate (first :: second :: others)).toList =
          first.toList ++ ' ' :: (" ".intercalate (second :: others)).toList := by
        rw [String.intercalate_cons_cons]
        simp
      have hsplit : tokens (" ".intercalate (first :: second :: others)) =
          tokens first ++ tokens (" ".intercalate (second :: others)) := by
        rw [tokens, hchars, List.splitOnP_append_cons _ _ (by decide), List.filter_append, List.map_append]
        rfl
      rw [hsplit, tokens_of_isToken hfirst, ih hrest, List.singleton_append]

/-! ### What the tags of a page add up to -/

/-- Tags with the given ids, with one label for each of the given parts, with the given descriptions, and with the given
paragraphs. -/
structure Refers (page : List Tag) (anchors labelled described : List String) (shown : List Tag) : Prop where
  ids : Html.ids page = anchors
  targets : Html.targets page = labelled.map ([·])
  descriptions : Html.descriptions page = described
  paragraphs : page.filter (·.name == "p") = shown

/-- A tag that takes no part in references: it is neither a label nor a paragraph, and has neither an id nor a
description. -/
def Tag.Silent (tag : Tag) : Prop :=
  (tag.name ≠ "label" ∧ tag.name ≠ "p") ∧
    valuesOf "id" tag.attributes = [] ∧ valuesOf "aria-describedby" tag.attributes = []

theorem refers_of_silent {page : List Tag} (h : ∀ tag ∈ page, tag.Silent) : Refers page [] [] [] [] where
  ids := List.flatMap_eq_nil_iff.mpr fun tag ht => (h tag ht).2.1
  targets := by
    have hnone : page.filter (·.name == "label") = [] :=
      List.filter_eq_nil_iff.mpr fun tag ht => by simpa using (h tag ht).1.1
    rw [Html.targets, hnone]
    rfl
  descriptions := List.flatMap_eq_nil_iff.mpr fun tag ht => by rw [(h tag ht).2.2]; rfl
  paragraphs := List.filter_eq_nil_iff.mpr fun tag ht => by simpa using (h tag ht).1.2

namespace Refers
variable {page : List Tag} {anchors labelled described : List String} {shown : List Tag}

theorem append (h : Refers page anchors labelled described shown) {page' : List Tag}
    {anchors' labelled' described' : List String} {shown' : List Tag}
    (h' : Refers page' anchors' labelled' described' shown') :
    Refers (page ++ page') (anchors ++ anchors') (labelled ++ labelled') (described ++ described') (shown ++ shown') where
  ids := by rw [← h.ids, ← h'.ids]; exact List.flatMap_append
  targets := by
    rw [List.map_append, ← h.targets, ← h'.targets, Html.targets, List.filter_append, List.map_append]
    rfl
  descriptions := by rw [← h.descriptions, ← h'.descriptions]; exact List.flatMap_append
  paragraphs := by rw [List.filter_append, h.paragraphs, h'.paragraphs]

theorem silent_append {before : List Tag} (h : ∀ tag ∈ before, tag.Silent)
    (hpage : Refers page anchors labelled described shown) : Refers (before ++ page) anchors labelled described shown :=
  (refers_of_silent h).append hpage

theorem silent_cons {tag : Tag} (h : tag.Silent) (hpage : Refers page anchors labelled described shown) :
    Refers (tag :: page) anchors labelled described shown :=
  hpage.silent_append (List.forall_mem_singleton.mpr h)

theorem label_cons (list target : String) (hpage : Refers page anchors labelled described shown) :
    Refers (⟨"label", [("class", list), ("for", target)]⟩ :: page) anchors (target :: labelled) described shown :=
  have hlabel : Refers [⟨"label", [("class", list), ("for", target)]⟩] [] [target] [] [] :=
    ⟨by simp [Html.ids], by simp [Html.targets], by simp [Html.descriptions], by simp⟩
  hlabel.append hpage

/-- A tag that is no label and no paragraph adds its id and its description. -/
theorem cons {tag : Tag} (hlabel : tag.name ≠ "label") (hp : tag.name ≠ "p") {anchors' described' : List String}
    (hid : valuesOf "id" tag.attributes ++ anchors = anchors')
    (hdescribed : (valuesOf "aria-describedby" tag.attributes).flatMap tokens ++ described = described')
    (hpage : Refers page anchors labelled described shown) : Refers (tag :: page) anchors' labelled described' shown := by
  have htag : Refers [tag] (valuesOf "id" tag.attributes) []
      ((valuesOf "aria-describedby" tag.attributes).flatMap tokens) [] :=
    ⟨by simp [Html.ids], by simp [Html.targets, hlabel], by simp [Html.descriptions], by simp [hp]⟩
  rw [← hid, ← hdescribed]
  exact htag.append hpage

end Refers

end Html

open Html

/-! ### Parts of a field -/

namespace Select

theorem Parts.ofProps_eq_ok {props : Members} {p : Parts} (h : Parts.ofProps props = .ok p) :
    p.id = idOf props ∧ p.helper = props.get "helper_text" ∧ p.error = props.get "error_text" := by
  obtain ⟨names, -, h⟩ := except_bind_eq_ok.mp h
  cases h
  exact ⟨rfl, rfl, rfl⟩

namespace Parts
variable (p : Parts)

/-- The ids of the messages that are shown. -/
def messageIds : List String :=
  (if p.helper.truthy then [p.helperId] else []) ++ (if p.error.truthy then [p.errorId] else [])

/-- The paragraph of the helper message, if it is shown. -/
def helperTags : List Tag :=
  if p.helper.truthy then [⟨"p", [("class", "anti-select__helper"), ("id", p.helperId)]⟩] else []

/-- The paragraph of the error message, if it is shown. -/
def errorTags : List Tag :=
  if p.error.truthy then [⟨"p", [("class", "anti-select__error"), ("id", p.errorId), ("role", "alert")]⟩] else []

/-- The id of the input of the option at an index. -/
def inputId (index : Nat) : String :=
  p.id ++ "-" ++ Number.intText index

theorem silent_labelLines : ∀ tag ∈ Markup.tags p.labelLines, tag.Silent := by
  intro tag h
  obtain ⟨-, rfl⟩ : p.required = true ∧ tag = ⟨"span", [("class", "anti-select__required"), ("aria-hidden", "true")]⟩ := by
    simpa [labelLines, tags_given, Node.tags] using h
  simp [Tag.Silent]

theorem silent_legendLines : ∀ tag ∈ Markup.tags p.legendLines, tag.Silent := by
  intro tag h
  rw [legendLines, tags_blockLine, List.mem_cons] at h
  rcases h with rfl | h
  · simp [Tag.Silent]
  · exact p.silent_labelLines tag h

variable {p}

theorem valuesOf_items (h : Helper.editable p.props = []) (name : String) (hclass : "class" ≠ name)
    (hcolorway : "data-colorway" ≠ name) : valuesOf name (Item.attributes p.items) = [] := by
  simp [items, h, Helper.colorway, hclass, hcolorway]

theorem mem_messageIds {id : String} :
    id ∈ p.messageIds ↔ (p.helper.truthy = true ∧ id = p.helperId) ∨ (p.error.truthy = true ∧ id = p.errorId) := by
  rw [messageIds, List.mem_append]
  cases p.helper.truthy <;> cases p.error.truthy <;> simp

theorem isToken_of_mem_messageIds (h : p.id.toList.any ClassList.separates = false) :
    ∀ id ∈ p.messageIds, IsToken id := by
  have hsuffix : ∀ suffix : String, suffix ≠ "" → suffix.toList.any ClassList.separates = false →
      IsToken (p.id ++ suffix) := fun suffix hne hplain => by
    refine ⟨fun hempty => hne (String.append_eq_empty_iff.mp hempty).2, ?_⟩
    rw [String.toList_append, List.any_append, h, hplain]
    rfl
  intro id hid
  rcases mem_messageIds.mp hid with ⟨-, rfl⟩ | ⟨-, rfl⟩
  · exact hsuffix "-helper" (by decide) (by decide)
  · exact hsuffix "-error" (by decide) (by decide)

theorem tokens_describedBy (h : p.id.toList.any ClassList.separates = false) :
    (valuesOf "aria-describedby" (Item.attributes p.describedBy)).flatMap tokens = p.messageIds := by
  have hdescribed : p.describedBy =
      Item.given (!p.messageIds.isEmpty) (.attr "aria-describedby" (" ".intercalate p.messageIds)) := rfl
  rw [hdescribed, valuesOf_given]
  cases hids : p.messageIds with
  | nil => rfl
  | cons first rest =>
    have htokens := tokens_intercalate (isToken_of_mem_messageIds h)
    rw [hids] at htokens
    simp [htokens]

/-! ### Ids -/

theorem inputId_inj {i j : Nat} (h : p.inputId i = p.inputId j) : i = j :=
  Number.intText_inj (String.append_right_inj _ |>.mp h)

theorem id_not_mem_messageIds : p.id ∉ p.messageIds := by
  have hsuffix : ∀ suffix : String, suffix ≠ "" → p.id ≠ p.id ++ suffix := fun suffix hne heq => by
    have hempty : "" = suffix := String.append_right_inj p.id |>.mp (String.append_empty.trans heq)
    exact hne hempty.symm
  intro h
  rcases mem_messageIds.mp h with ⟨-, heq⟩ | ⟨-, heq⟩
  · exact hsuffix "-helper" (by decide) heq
  · exact hsuffix "-error" (by decide) heq

theorem inputId_not_mem_messageIds (index : Nat) : p.inputId index ∉ p.messageIds := by
  -- after the dash, the text of an index is made of digits, and the names of the messages of letters
  have hword : ∀ word : String, word.toList.all Char.isDigit = false → p.inputId index ≠ p.id ++ ("-" ++ word) := by
    intro word hletter heq
    have htext : Number.intText index = word := by
      rw [← String.append_assoc] at heq
      exact String.append_right_inj _ |>.mp heq
    have hdigits : word.toList.all Char.isDigit = true := by
      rw [← htext, List.all_eq_true]
      exact fun c hc => Number.isDigit_of_mem_intText hc
    rw [hdigits] at hletter
    cases hletter
  intro h
  rcases mem_messageIds.mp h with ⟨-, heq⟩ | ⟨-, heq⟩
  · exact hword "helper" (by decide) heq
  · exact hword "error" (by decide) heq

theorem nodup_messageIds : p.messageIds.Nodup := by
  have hne : p.helperId ≠ p.errorId := fun heq => by
    have hsuffix : "-helper" = "-error" := String.append_right_inj _ |>.mp heq
    exact absurd hsuffix (by decide)
  simp only [messageIds]
  cases p.helper.truthy <;> cases p.error.truthy <;> simp [hne]

end Parts

/-! ### The ways to show a field -/

section
variable (p : Parts) (hid : p.id.toList.any ClassList.separates = false) (heditable : Helper.editable p.props = [])

theorem refers_messageLines : Refers (Markup.tags p.messageLines) p.messageIds [] [] (p.helperTags ++ p.errorTags) := by
  have htags : Markup.tags p.messageLines = p.helperTags ++ p.errorTags := by
    simp [Parts.messageLines, Markup.tags_given, Parts.helperTags, Parts.errorTags, Node.tags]
  rw [htags, Parts.messageIds, Parts.helperTags, Parts.errorTags]
  cases p.helper.truthy <;> cases p.error.truthy <;>
    exact ⟨by simp [Html.ids], by simp [Html.targets], by simp [Html.descriptions], by simp⟩

theorem silent_entryLine (choice : Choice) : ∀ tag ∈ Markup.tags (entryLine p choice), tag.Silent := by
  intro tag h
  obtain rfl : tag = ⟨"option", [("value", choice.value.print)]⟩ := by
    simpa [entryLine, Node.tags, Item.attributes_given] using h
  simp [Tag.Silent]

theorem silent_placeholderLine : ∀ tag ∈ Markup.tags (placeholderLine p), tag.Silent := by
  intro tag h
  obtain ⟨-, rfl⟩ : (p.props.get "placeholder").truthy = true ∧ tag = ⟨"option", [("value", "")]⟩ := by
    simpa [placeholderLine, Markup.tags_given, Node.tags, Item.attributes_given] using h
  simp [Tag.Silent]

theorem silent_buttonLine (choice : Choice) : ∀ tag ∈ Markup.tags (buttonLine p choice), tag.Silent := by
  intro tag h
  rw [buttonLine, Markup.tags_line, Node.tags] at h
  obtain rfl := List.mem_singleton.mp h
  simp [Tag.Silent, Item.attributes_given]

theorem silent_flatMap {α : Type} {f : α → Markup} (h : ∀ a, ∀ tag ∈ Markup.tags (f a), tag.Silent) (l : List α) :
    ∀ tag ∈ Markup.tags (l.flatMap f), tag.Silent := by
  intro tag htag
  rw [Markup.tags_flatMap] at htag
  obtain ⟨a, -, ha⟩ := List.mem_flatMap.mp htag
  exact h a tag ha

include hid heditable

/-- The control has the id that the label names, and is described by the messages. -/
theorem refers_dropdown (options : List Choice) :
    Refers (dropdown p options).tags (p.id :: p.messageIds) [p.id] p.messageIds (p.helperTags ++ p.errorTags) := by
  have houter := Parts.valuesOf_items heditable
  have hentries := silent_flatMap (silent_entryLine p) options
  have hcontent := ((refers_messageLines p).silent_append hentries).silent_append (silent_placeholderLine p)
  have hdescribed := Parts.tokens_describedBy hid
  rw [dropdown, Markup.tags_block]
  refine .silent_cons (by simp [Tag.Silent, houter]) ?_
  simp only [Markup.tags_append, Markup.tags_blockLine, List.append_assoc, List.cons_append]
  refine .label_cons _ _ (.silent_append p.silent_labelLines ?_)
  refine .cons (by simp) (by simp) ?_ ?_ hcontent
  · simp [Parts.describedBy, Parts.invalid]
  · simp [hdescribed, Parts.invalid]

/-- A set of inputs is described by the messages. -/
theorem refers_fieldset {content : Markup} {anchors labelled : List String} {shown : List Tag}
    (h : Refers (Markup.tags content) anchors labelled [] shown) :
    Refers (block 0 "fieldset" (p.items ++ p.describedBy ++ p.invalid) content).tags anchors labelled p.messageIds
      shown := by
  have houter := Parts.valuesOf_items heditable
  have hdescribed := Parts.tokens_describedBy hid
  rw [Markup.tags_block]
  refine .cons (by simp) (by simp) ?_ ?_ h
  · simp [houter, Parts.describedBy, Parts.invalid]
  · simp [houter, hdescribed, Parts.invalid]

theorem refers_buttonGroup (options : List Choice) :
    Refers (buttonGroup p options).tags p.messageIds [] p.messageIds (p.helperTags ++ p.errorTags) := by
  have hbuttons := (refers_messageLines p).silent_append (silent_flatMap (silent_buttonLine p) options)
  refine refers_fieldset p hid heditable ?_
  simp only [Markup.tags_append, Markup.tags_blockLine, Markup.tags_line, Node.tags, List.cons_append, List.append_assoc,
    List.nil_append]
  refine .silent_append p.silent_legendLines ?_
  refine .silent_cons (by simp [Tag.Silent]) ?_
  exact .silent_cons (by simp [Tag.Silent]) hbuttons

theorem refers_inputGroup {inputs : Markup} {anchors : List String} (h : Refers (Markup.tags inputs) anchors anchors [] []) :
    Refers (inputGroup p inputs).tags (anchors ++ p.messageIds) anchors p.messageIds (p.helperTags ++ p.errorTags) := by
  have hcontent := h.append (refers_messageLines p)
  rw [List.append_nil] at hcontent
  refine refers_fieldset p hid heditable ?_
  simp only [Markup.tags_append, Markup.tags_blockLine, List.append_assoc, List.cons_append]
  refine .silent_append p.silent_legendLines ?_
  exact .silent_cons (by simp [Tag.Silent]) hcontent

end

section
variable (p : Parts) (display : Value)

theorem refers_inputLines (index : Nat) (choice : Choice) (checked : Bool) :
    Refers (Markup.tags (inputLines p display index choice checked)) [p.inputId index] [p.inputId index] [] [] := by
  have hlabel : Refers [⟨"span", [("class", "anti-select__option-label")]⟩] [] [] [] [] :=
    refers_of_silent (List.forall_mem_singleton.mpr (by simp [Tag.Silent]))
  simp only [inputLines, Markup.tags_append, Markup.tags_blockLine, Markup.tags_line, Node.tags]
  refine .label_cons _ _ ?_
  refine .cons (by simp) (by simp) ?_ ?_ hlabel
  · simp [Item.attributes_given, Parts.inputId]
  · simp [Item.attributes_given]

theorem refers_allInputLines {index : Nat} {options : List Value} {m : Markup}
    (h : allInputLines p display index options = .ok m) :
    Refers (Markup.tags m) ((List.range' index options.length).map p.inputId)
      ((List.range' index options.length).map p.inputId) [] [] := by
  induction options generalizing index m with
  | nil =>
    cases h
    exact refers_of_silent fun _ htag => by cases htag
  | cons option rest ih =>
    obtain ⟨value, -, h⟩ := except_bind_eq_ok.mp h
    obtain ⟨checked, -, h⟩ := except_bind_eq_ok.mp h
    obtain ⟨choice, -, h⟩ := except_bind_eq_ok.mp h
    obtain ⟨others, hothers, h⟩ := except_bind_eq_ok.mp h
    cases h
    rw [Markup.tags_append]
    exact (refers_inputLines p display index choice checked).append (ih hothers)

end

/-! ### Pages of fields -/

/-- The references on a page of a field: the ids differ, each label is for a part with an id, each description is
that of a part with an id, and the messages that are described are those that are shown. -/
structure Connected (props : Members) (page : List Tag) : Prop where
  distinct : (ids page).Nodup
  labels : ∀ names ∈ targets page, ∃ id ∈ ids page, names = [id]
  described : ∀ id ∈ descriptions page, id ∈ ids page
  helper : paragraphs "anti-select__helper" page = if (props.get "helper_text").truthy then
    [⟨"p", [("class", "anti-select__helper"), ("id", Parts.idOf props ++ "-helper")]⟩] else []
  error : paragraphs "anti-select__error" page = if (props.get "error_text").truthy then
    [⟨"p", [("class", "anti-select__error"), ("id", Parts.idOf props ++ "-error"), ("role", "alert")]⟩] else []
  listed : descriptions page =
    ids (paragraphs "anti-select__helper" page) ++ ids (paragraphs "anti-select__error" page)

theorem Parts.paragraphs_messages (p : Parts) :
    (p.helperTags ++ p.errorTags).filter (valuesOf "class" ·.attributes == ["anti-select__helper"]) = p.helperTags ∧
    (p.helperTags ++ p.errorTags).filter (valuesOf "class" ·.attributes == ["anti-select__error"]) = p.errorTags := by
  rw [helperTags, errorTags]
  cases p.helper.truthy <;> cases p.error.truthy <;> simp

theorem connected_of_refers {props : Members} {p : Parts} (hp : Parts.ofProps props = .ok p) {page : List Tag}
    {anchors : List String} (h : Refers page (anchors ++ p.messageIds) anchors p.messageIds (p.helperTags ++ p.errorTags))
    (hdistinct : anchors.Nodup) (hapart : ∀ anchor ∈ anchors, anchor ∉ p.messageIds) : Connected props page := by
  obtain ⟨hid, hhelper, herror⟩ := Parts.ofProps_eq_ok hp
  have hhelperTags : paragraphs "anti-select__helper" page = p.helperTags := by
    rw [paragraphs, h.paragraphs, p.paragraphs_messages.1]
  have herrorTags : paragraphs "anti-select__error" page = p.errorTags := by
    rw [paragraphs, h.paragraphs, p.paragraphs_messages.2]
  refine ⟨?_, ?_, ?_, ?_, ?_, ?_⟩
  · rw [h.ids, List.nodup_append]
    exact ⟨hdistinct, Parts.nodup_messageIds, fun anchor ha id hid heq => hapart anchor ha (heq ▸ hid)⟩
  · rw [h.targets, h.ids]
    intro names hnames
    obtain ⟨anchor, hanchor, rfl⟩ := List.mem_map.mp hnames
    exact ⟨anchor, List.mem_append_left _ hanchor, rfl⟩
  · rw [h.descriptions, h.ids]
    exact fun id hmem => List.mem_append_right _ hmem
  · rw [hhelperTags, Parts.helperTags, Parts.helperId, hhelper, hid]
  · rw [herrorTags, Parts.errorTags, Parts.errorId, herror, hid]
  · rw [h.descriptions, hhelperTags, herrorTags, Parts.messageIds, Parts.helperTags, Parts.errorTags]
    cases p.helper.truthy <;> cases p.error.truthy <;> simp [ids]

theorem template_connected (c : Composition) {props : Members} (heditable : Helper.editable props = [])
    (hid : (Parts.idOf props).toList.any ClassList.separates = false) :
    (template c props).Ensures fun m => Connected props (Markup.tags m) := by
  simp only [template]
  refine Render.Ensures.bind_result fun p hp => ?_
  obtain ⟨hpid, -, -⟩ := Parts.ofProps_eq_ok hp
  rw [← hpid] at hid
  rw [← props_of_ofProps hp] at heditable
  split
  · refine Render.Ensures.bind_result fun options _ => Render.Ensures.pure ?_
    have hpage := refers_dropdown p hid heditable options
    rw [Markup.tags_cons, Markup.tags_nil, List.append_nil]
    exact connected_of_refers hp hpage (by simp) (List.forall_mem_singleton.mpr Parts.id_not_mem_messageIds)
  split
  · refine Render.Ensures.bind_result fun options _ => Render.Ensures.pure ?_
    have hpage := refers_buttonGroup p hid heditable options
    rw [Markup.tags_cons, Markup.tags_nil, List.append_nil]
    exact connected_of_refers hp hpage List.nodup_nil (List.forall_mem_nil _)
  · refine Render.Ensures.bind_result fun options _ => Render.Ensures.bind_result fun inputs hinputs => Render.Ensures.pure ?_
    have hpage := refers_inputGroup p hid heditable (refers_allInputLines p _ hinputs)
    rw [Markup.tags_cons, Markup.tags_nil, List.append_nil]
    refine connected_of_refers hp hpage ?_ ?_
    · exact List.Nodup.map (fun i j hij => Parts.inputId_inj hij) List.nodup_range'
    · exact List.forall_mem_map.mpr fun index _ => Parts.inputId_not_mem_messageIds index

/-- On the page of every field, whatever its way of showing and its options, the references lead to the parts that they
name, as long as the id of the field has no blanks. -/
theorem references_of_component {r : Renderer} {name : String} (hr : r.registry.find? name = some (.bundled .select))
    {levels : Nat} {props : Value} {m : Markup} (hm : (r.component (levels + 1) (.text name) props).result = .ok m)
    {bag : Members} (hbag : (r.fill name props).result = .ok bag) (heditable : (bag.get "editable").truthy = false)
    (hid : (Parts.idOf bag).toList.any ClassList.separates = false) : Connected bag (Html.tags m.print) := by
  have hverbatim : Helper.editable bag = [] := by
    rw [Helper.editable, heditable]
    rfl
  rw [Renderer.result_component hr hbag] at hm
  change (template (r.composition (r.component levels)) bag).result = .ok m at hm
  have hfits : Markup.fits library m = true := template_fits _ hverbatim m hm
  rw [tags_print library_isLegible hfits]
  exact template_connected _ hverbatim hid m hm

/-- Props of a group of checkboxes with both messages. -/
def toppingProps : Members := [
  ("display", .text "checkbox"), ("name", .text "top\"pings"), ("helper_text", .text "Pick any"), ("error_text", .int 1),
  ("options", .list [.object [("value", .int 1)], .object [("label", .text "Ham & egg")]])]

theorem fill_toppingProps : ((Renderer.bundle .refuse).fill "select" (.object toppingProps)).result =
    .ok (schema.handed toppingProps) := rfl

theorem references_of_component_toppings :
    ∃ m, ((Renderer.bundle .refuse).component 1 (.text "select") (.object toppingProps)).result = .ok m ∧
      Connected (schema.handed toppingProps) (Html.tags m.print) ∧ Parts.idOf (schema.handed toppingProps) = "select-top\"pings" := by
  refine exists_ok (by decide +kernel) fun m hm => ⟨?_, by decide⟩
  exact references_of_component (r := Renderer.bundle .refuse) rfl hm fill_toppingProps (by decide) (by decide)

end Select
end DesignKit
