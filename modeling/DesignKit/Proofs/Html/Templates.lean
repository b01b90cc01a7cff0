import DesignKit.Proofs.Html.Library
import DesignKit.Proofs.MarkupFree

/-! # The templates write pages of the library

Each template, given a bag that gives no markup, writes markup that fits the vocabulary of the library, as
long as the components that it composes do. -/

namespace DesignKit
open Markup Html

/-! ### Parts of templates -/

namespace Markup
variable {v : Vocabulary}

@[simp] theorem fits_nil : fits v [] = true := rfl

@[simp] theorem fits_cons (n : Node) (m : Markup) : fits v (n :: m) = (n.fits v && fits v m) := rfl

@[simp] theorem fits_append (m n : Markup) : fits v (m ++ n) = (fits v m && fits v n) := by
  induction m with
  | nil => rfl
  | cons part rest ih => simp [ih, Bool.and_assoc]

@[simp] theorem fits_given (condition : Bool) (m : Markup) : fits v (given condition m) = (!condition || fits v m) := by
  cases condition <;> rfl

@[simp] theorem fits_newline : newline.fits v = true := rfl

@[simp] theorem fits_pad (n : Nat) : (pad n).fits v = true := rfl

@[simp] theorem fits_ofValue (value : Value) : (Node.ofValue value).fits v = true := rfl

@[simp] theorem fits_line (indent : Nat) (n : Node) : fits v (line indent n) = n.fits v := by
  simp [line]

@[simp] theorem fits_block (indent : Nat) (tag : String) (items : List Item) (content : Markup) :
    (block indent tag items content).fits v =
      (v.hasTag tag && items.all (·.fits v tag) && !v.isVoid tag && fits v content) := by
  simp [block, Node.fits]

@[simp] theorem fits_blockLine (indent : Nat) (tag : String) (items : List Item) (content : Markup) :
    fits v (blockLine indent tag items content) =
      (v.hasTag tag && items.all (·.fits v tag) && !v.isVoid tag && fits v content) := by
  rw [blockLine, fits_line, fits_block]

theorem fits_flatMap {α : Type} {f : α → Markup} (h : ∀ a, fits v (f a) = true) (l : List α) :
    fits v (l.flatMap f) = true := by
  induction l with
  | nil => rfl
  | cons a rest ih => simp [List.flatMap_cons, h, ih]

theorem fits_flatten {l : List Markup} (h : ∀ m ∈ l, fits v m = true) : fits v l.flatten = true := by
  induction l with
  | nil => rfl
  | cons m rest ih =>
    rw [List.flatten_cons, fits_append, h m List.mem_cons_self, ih fun n hn => h n (List.mem_cons_of_mem _ hn)]
    rfl

theorem fits_joinLines {l : List Markup} (h : ∀ m ∈ l, fits v m = true) : fits v (joinLines l) = true := by
  fun_induction joinLines l with
  | case1 => rfl
  | case2 m => simp [Node.fits, h m]
  | case3 m rest _ ih => simp [Node.fits, h m, ih fun n hn => h n (List.mem_cons_of_mem _ hn)]

end Markup

namespace Item
variable {v : Vocabulary} {tag : String}

@[simp] theorem all_given (p : Item → Bool) (condition : Bool) (item : Item) :
    (given condition item).all p = (!condition || p item) := by
  cases condition <;> simp [given]

@[simp] theorem fits_attr (name value : String) : (attr name value).fits v tag = v.hasAttribute tag name := rfl

@[simp] theorem fits_flag (name : String) : (flag name).fits v tag = v.hasAttribute tag name := rfl

@[simp] theorem fits_gap : gap.fits v tag = true := rfl

@[simp] theorem fits_classed (names : String) : (classed names).fits v tag = v.hasAttribute tag "class" := rfl

@[simp] theorem fits_valued (name : String) (value : Value) : (valued name value).fits v tag = v.hasAttribute tag name :=
  rfl

end Item

namespace Helper
variable {v : Vocabulary} {tag : String}

@[simp] theorem all_colorway (p : Item → Bool) (value : Value) :
    (colorway value).all p = (value.same (.text "inherit") || p (.valued "data-colorway" value)) := by
  simp [colorway]

theorem fits_attributeItems {entries : List (String × Value)} (h : ∀ e ∈ entries, v.hasAttribute tag e.1 = true) :
    (attributeItems entries).all (·.fits v tag) = true := by
  unfold attributeItems
  simp only
  split
  · rfl
  · rw [List.all_eq_true]
    intro item hitem
    obtain ⟨e, he, hattr⟩ := List.mem_filterMap.mp hitem
    obtain ⟨text, -, rfl⟩ := Option.map_eq_some_iff.mp hattr
    exact h e he

theorem fits_brokenLines (hbr : v.hasTag "br" = true ∧ v.isVoid "br" = true) (l : List String) :
    Markup.fits v (brokenLines l) = true := by
  fun_induction brokenLines l with
  | case1 => rfl
  | case2 s => rfl
  | case3 s rest _ ih => simp [Node.fits, hbr, ih]

end Helper

theorem Members.Harmless.editable_eq {props : Members} (h : props.Harmless) : Helper.editable props = [] := by
  simp [Helper.editable, Item.given, h.absent "editable" (by decide)]

/-- Markup that fits the vocabulary of the library. -/
abbrev Fitting (m : Markup) : Prop := Markup.fits library m = true

/-! ### Templates without children -/

namespace Badge

theorem template_fits (c : Composition) {props : Members} (h : props.Harmless) :
    (template c props).Ensures Fitting := by
  simp only [template]
  split
  · refine Render.Ensures.bind_result fun css _ => Render.Ensures.pure ?_
    simp +decide [Fitting, Node.fits, h.editable_eq]
  · exact Render.Ensures.pure rfl

end Badge

namespace Button

theorem template_fits (c : Composition) {props : Members} (h : props.Harmless) :
    (template c props).Ensures Fitting := by
  simp only [template]
  refine Render.Ensures.bind_result fun css _ => ?_
  split
  · exact Render.Ensures.pure (by simp +decide [Fitting, h.editable_eq])
  · exact Render.Ensures.pure (by simp +decide [Fitting, h.editable_eq])

end Button

namespace Card

theorem arrow_fits : arrow.fits library = true := by
  decide

theorem template_fits (c : Composition) {props : Members} (h : props.Harmless) :
    (template c props).Ensures Fitting := by
  simp only [template]
  refine Render.Ensures.bind_result fun css _ => Render.Ensures.pure ?_
  have himage : ∀ title, fits library (imageLines props title) = true := fun title => by
    simp +decide [imageLines, Node.fits]
  have hlink : fits library (linkLines props) = true := by
    simp +decide [linkLines, arrow_fits]
  have hcontent : ∀ title, fits library (contentLines props title) = true := fun title => by
    simp +decide [contentLines, Node.fits, hlink]
  -- The element has an address exactly when it is an anchor.
  cases hurl : (props.get "link_url").truthy <;>
    simp +decide [Fitting, h.editable_eq, himage, hcontent]

end Card

namespace CodeBlock

theorem numberedLines_fit (n : Nat) (l : List String) : fits library (numberedLines n l) = true := by
  fun_induction numberedLines n l with
  | case1 => rfl
  | case2 n s rest ih => simp +decide [Node.fits, ih]

theorem template_fits (c : Composition) {props : Members} (h : props.Harmless) :
    (template c props).Ensures Fitting := by
  simp only [template]
  split
  · refine Render.Ensures.bind_result fun css _ => Render.Ensures.pure ?_
    have hcode : ∀ numbered code, fits library (codeContent numbered code) = true := fun numbered code => by
      cases numbered <;> simp [codeContent, numberedLines_fit]
    simp +decide [Fitting, Node.fits, h.editable_eq, headerLines, codeLine, hcode]
  · exact Render.Ensures.pure rfl

end CodeBlock

namespace Faq

theorem arrow_fits : arrow.fits library = true := by
  decide

theorem template_fits (c : Composition) {props : Members} (h : props.Harmless) :
    (template c props).Ensures Fitting := by
  simp only [template]
  refine Render.Ensures.bind_result fun css _ => Render.Ensures.pure ?_
  have hanswer : ∀ answer, fits library (Helper.withBreaks answer) = true := fun answer =>
    Helper.fits_brokenLines (by decide) _
  simp +decide [Fitting, Node.fits, h.editable_eq, arrow_fits, hanswer]

end Faq

namespace Intro

theorem template_fits (c : Composition) {props : Members} (h : props.Harmless) :
    (template c props).Ensures Fitting := by
  simp only [template]
  split
  · refine Render.Ensures.pure ?_
    have hlayout : (Helper.attributeItems (layoutEntries props)).all (·.fits library "div") = true :=
      Helper.fits_attributeItems (by simp +decide [layoutEntries])
    cases heyebrow : (props.get "eyebrow").truthy <;>
      simp +decide [Fitting, Node.fits, h.editable_eq, hlayout]
  · exact Render.Ensures.pure rfl

end Intro

namespace Select

theorem props_of_ofProps {props : Members} {p : Parts} (h : Parts.ofProps props = .ok p) : p.props = props := by
  obtain ⟨names, -, h⟩ := except_bind_eq_ok.mp h
  cases h
  rfl

section
variable {p : Parts}

theorem labelLines_fit : fits library p.labelLines = true := by
  simp +decide [Parts.labelLines, Node.fits]

theorem legendLines_fit : fits library p.legendLines = true := by
  simp +decide [Parts.legendLines, labelLines_fit]

theorem messageLines_fit : fits library p.messageLines = true := by
  simp +decide [Parts.messageLines, Node.fits]

theorem dropdown_fits (h : Helper.editable p.props = []) (options : List Choice) :
    (dropdown p options).fits library = true := by
  have hentries : fits library (options.flatMap (entryLine p)) = true :=
    fits_flatMap (fun choice => by simp +decide [entryLine, Node.fits]) options
  have hplaceholder : fits library (placeholderLine p) = true := by
    simp +decide [placeholderLine, Node.fits]
  simp +decide [dropdown, Parts.items, Parts.invalid, Parts.describedBy, h, labelLines_fit,
    messageLines_fit, hentries, hplaceholder]

theorem buttonGroup_fits (h : Helper.editable p.props = []) (options : List Choice) :
    (buttonGroup p options).fits library = true := by
  have hbuttons : fits library (options.flatMap (buttonLine p)) = true :=
    fits_flatMap (fun choice => by simp +decide [buttonLine, Node.fits]) options
  simp +decide [buttonGroup, Node.fits, Parts.items, Parts.invalid, Parts.describedBy, h, legendLines_fit,
    messageLines_fit, hbuttons]

theorem inputGroup_fits (h : Helper.editable p.props = []) {inputs : Markup} (hi : fits library inputs = true) :
    (inputGroup p inputs).fits library = true := by
  simp +decide [inputGroup, Parts.items, Parts.invalid, Parts.describedBy, h, legendLines_fit,
    messageLines_fit, hi]

theorem inputLines_fit (display : Value) (index : Nat) (choice : Choice) (checked : Bool) :
    fits library (inputLines p display index choice checked) = true := by
  simp +decide [inputLines, Node.fits]

theorem allInputLines_fit (display : Value) {options : List Value} {index : Nat} {m : Markup}
    (h : allInputLines p display index options = .ok m) : fits library m = true := by
  induction options generalizing index m with
  | nil =>
    cases h
    rfl
  | cons option rest ih =>
    obtain ⟨value, -, h⟩ := except_bind_eq_ok.mp h
    obtain ⟨checked, -, h⟩ := except_bind_eq_ok.mp h
    obtain ⟨choice, -, h⟩ := except_bind_eq_ok.mp h
    obtain ⟨others, hothers, h⟩ := except_bind_eq_ok.mp h
    cases h
    rw [fits_append, inputLines_fit, ih hothers]
    rfl

end

/-- Only what an editor adds could write something else: a field shows its values as texts, whatever is in them. -/
theorem template_fits (c : Composition) {props : Members} (h : Helper.editable props = []) :
    (template c props).Ensures Fitting := by
  simp only [template]
  refine Render.Ensures.bind_result fun p hp => ?_
  have hprops : Helper.editable p.props = [] := by rwa [props_of_ofProps hp]
  split
  · refine Render.Ensures.bind_result fun options _ => Render.Ensures.pure ?_
    simp [Fitting, dropdown_fits hprops]
  · split
    · refine Render.Ensures.bind_result fun options _ => Render.Ensures.pure ?_
      simp [Fitting, buttonGroup_fits hprops]
    · refine Render.Ensures.bind_result fun options _ => Render.Ensures.bind_result fun inputs hi => Render.Ensures.pure ?_
      simp [Fitting, inputGroup_fits hprops (allInputLines_fit _ hi)]

end Select

namespace Stats

theorem template_fits (c : Composition) {props : Members} (h : props.Harmless) :
    (template c props).Ensures Fitting := by
  simp only [template]
  refine Render.Ensures.pure ?_
  simp +decide [Fitting, Node.fits, h.editable_eq, affixLine]

end Stats

namespace Testimonial

theorem ratingLines_fit (rating : Int) : fits library (ratingLines rating) = true := by
  have hstar : ∀ filled, fits library (starLine filled) = true := fun filled => by
    cases filled <;> decide
  simp +decide [ratingLines, hstar]

theorem template_fits (c : Composition) {props : Members} (h : props.Harmless) :
    (template c props).Ensures Fitting := by
  simp only [template]
  refine Render.Ensures.bind_result fun rating _ => Render.Ensures.bind_result fun css _ => Render.Ensures.pure ?_
  have havatar : ∀ avatar author, fits library (avatarLine avatar author) = true := fun avatar author => by
    unfold avatarLine
    split <;> simp +decide [Node.fits]
  simp +decide [Fitting, Node.fits, h.editable_eq, ratingLines_fit, authorLines, havatar]

end Testimonial
/-! ### Compositions -/

namespace Helper
variable {v w default : Value} {key : String}

theorem isMarkupFree_member (h : v.isMarkupFree = true) (hd : default.isMarkupFree = true)
    (hw : member v key default = .ok w) : w.isMarkupFree = true := by
  unfold member at hw
  cases v with
  | object m =>
    cases hw
    exact Members.MarkupFree.getD h hd key
  | _ => cases hw

/-- The props of a delegate are an object that gives no markup. -/
theorem markupFree_member_props (h : v.isMarkupFree = true) (hw : member v "props" .null = .ok w) :
    ∃ props : Members, w.orElse (.object []) = .object props ∧ props.MarkupFree := by
  unfold member at hw
  cases v with
  | object m =>
    cases hw
    exact Members.MarkupFree.props h
  | _ => cases hw

theorem isMarkupFree_items (h : v.isMarkupFree = true) {vs : List Value} (hvs : items v = .ok vs) :
    ∀ w ∈ vs, w.isMarkupFree = true := by
  unfold items at hvs
  split at hvs
  · rename_i hitems
    cases hvs
    exact Value.isMarkupFree_of_items h hitems
  · cases hvs

end Helper

/-- What a composition renders from props without markup fits, and its schemas declare no markup. -/
structure Composition.Fits (c : Composition) : Prop where
  component : ∀ type (props : Members), props.MarkupFree → (c.component type (.object props)).Ensures Fitting
  schema : ∀ name s, c.schema name = .ok s → s.isMarkupFree = true

namespace Composition.Fits
variable {c : Composition} (h : c.Fits)
include h

theorem consult (name : String) : (c.consult name).Ensures (·.isMarkupFree = true) :=
  Render.Ensures.bind_result fun s hs => Render.Ensures.bind_result fun _ _ => Render.Ensures.pure (h.schema name s hs)

theorem childAt {parent : Schema} (hp : parent.isMarkupFree = true) (index : Nat) {entry : Value}
    (he : entry.isMarkupFree = true) : (c.childAt parent index entry).Ensures Fitting := by
  unfold Composition.childAt
  refine Render.Ensures.bind_result fun node hn => Render.Ensures.bind_result fun admitted _ => ?_
  split
  · exact h.component _ _ (markupFree_childProps hp index (Invocation.markupFree_props he hn))
  · exact Render.Ensures.pure rfl

theorem childList {parent : Schema} (hp : parent.isMarkupFree = true) {entries : List Value}
    (he : ∀ entry ∈ entries, entry.isMarkupFree = true) (index : Nat) :
    (c.childList parent index entries).Ensures fun found => ∀ m ∈ found, Fitting m := by
  induction entries generalizing index with
  | nil => exact Render.Ensures.pure (by simp)
  | cons entry rest ih =>
    rw [childList_cons]
    refine Render.Ensures.bind (h.childAt hp index (he entry List.mem_cons_self)) fun m hm => ?_
    refine Render.Ensures.bind (ih (fun e hmem => he e (List.mem_cons_of_mem _ hmem)) (index + 1)) fun others ho => ?_
    refine Render.Ensures.pure ?_
    split
    · exact ho
    · simpa using ⟨hm, ho⟩

theorem children {entries : Value} (he : entries.isMarkupFree = true) (name : String) :
    (c.children entries (.named name)).Ensures Fitting := by
  unfold Composition.children
  split
  · have hparent : (c.parentSchema (.named name)).Ensures (·.isMarkupFree = true) := by
      unfold parentSchema
      simp only
      split
      · exact Render.Ensures.pure rfl
      · exact h.consult name
    refine Render.Ensures.bind hparent fun parent hp => Render.Ensures.bind_result fun vs hvs => ?_
    refine Render.Ensures.bind (h.childList hp (Helper.isMarkupFree_items he hvs) 0) fun found hf => ?_
    exact Render.Ensures.pure (fits_joinLines hf)
  · exact Render.Ensures.pure rfl

theorem child (type : Value) {props : Members} (hp : props.MarkupFree) (index : Option Int) :
    (c.child type (.object props) index).Ensures Fitting := by
  unfold Composition.child
  refine Render.Ensures.bind_result fun admitted _ => ?_
  split
  · refine Render.Ensures.bind (h.component type props hp) fun m hm => Render.Ensures.pure ?_
    simpa [Fitting, Node.fits] using hm
  · exact Render.Ensures.pure rfl

end Composition.Fits

namespace Container

theorem template_fits {c : Composition} (hc : c.Fits) {props : Members} (h : props.Harmless) :
    (template c props).Ensures Fitting := by
  simp only [template]
  refine Render.Ensures.bind (hc.children (h.values "children") "container") fun content hm => Render.Ensures.pure ?_
  have hlayout : (Helper.attributeItems (layoutEntries props)).all (·.fits library "div") = true :=
    Helper.fits_attributeItems (by simp +decide [layoutEntries])
  simp +decide [Fitting, h.editable_eq, customColumns, hlayout, show fits library content = true from hm]

end Container

namespace Section

theorem template_fits {c : Composition} (hc : c.Fits) {props : Members} (h : props.Harmless) :
    (template c props).Ensures Fitting := by
  simp only [template]
  refine Render.Ensures.bind (hc.children (h.values "children") "section") fun content hm => Render.Ensures.pure ?_
  have hlayout : (Helper.attributeItems (layoutEntries props)).all (·.fits library "section") = true :=
    Helper.fits_attributeItems (by simp +decide [layoutEntries])
  simp +decide [Fitting, h.editable_eq, hlayout, show fits library content = true from hm]

end Section
namespace Hero

/-- Nothing that has been chosen gives markup. -/
structure Selection.MarkupFree (s : Selection) : Prop where
  intro : ∀ bag, s.intro = some bag → bag.MarkupFree
  buttons : ∀ bag ∈ s.buttons, bag.MarkupFree

theorem Selection.MarkupFree.add {s : Selection} (h : s.MarkupFree) (type : Value) {bag : Members}
    (hb : bag.MarkupFree) : (s.add type bag).MarkupFree := by
  unfold Selection.add
  split
  · exact ⟨fun b heq => by cases heq; exact hb, h.buttons⟩
  · split
    · refine ⟨h.intro, fun b hmem => ?_⟩
      rcases List.mem_append.mp hmem with hmem | hmem
      · exact h.buttons b hmem
      · rw [List.mem_singleton.mp hmem]
        exact hb
    · exact h

theorem Selection.markupFree_empty : Selection.MarkupFree ⟨none, []⟩ where
  intro _ h := by cases h
  buttons _ h := by cases h

theorem markupFree_part {child : Value} (h : child.isMarkupFree = true) :
    ∃ props : Members, ((part? child "props").getD .null).orElse (.object []) = .object props ∧ props.MarkupFree := by
  cases child with
  | object m => exact Members.MarkupFree.props h
  | _ => exact ⟨[], rfl, rfl⟩

theorem markupFree_childBag {parent : Schema} (hp : parent.isMarkupFree = true) (index : Nat) {child : Value}
    (h : child.isMarkupFree = true) {bag : Members}
    (hb : childBag parent index ((part? child "props").getD .null) = .ok bag) : bag.MarkupFree := by
  obtain ⟨props, hprops, hfree⟩ := markupFree_part h
  rw [childBag_object parent index hprops] at hb
  cases hb
  exact (Schema.markupFree_place hp index hfree).ofEntries.set rfl rfl

theorem markupFree_select (c : Composition) {parent : Schema} (hp : parent.isMarkupFree = true) {entries : List Value}
    (he : ∀ entry ∈ entries, entry.isMarkupFree = true) {s : Selection} (hs : s.MarkupFree) (index : Nat) :
    (select c parent index entries s).Ensures Selection.MarkupFree := by
  induction entries generalizing s index with
  | nil => exact Render.Ensures.pure hs
  | cons child rest ih =>
    have hrest := fun {s : Selection} (hs : s.MarkupFree) =>
      ih (fun e hmem => he e (List.mem_cons_of_mem _ hmem)) hs (index + 1)
    simp only [select]
    refine Render.Ensures.bind_result fun admitted _ => ?_
    split
    · refine Render.Ensures.bind_result fun bag hb => hrest (hs.add _ ?_)
      exact markupFree_childBag hp index (he child List.mem_cons_self) hb
    · exact hrest hs

theorem markupFree_buttonBag {bag : Members} (h : bag.MarkupFree) (size : String) (isFirst : Bool) :
    (buttonBag size isFirst bag).MarkupFree := by
  refine Members.MarkupFree.set (h.set rfl rfl) rfl ?_
  split
  · rfl
  · exact h.getD rfl "shadow"

theorem introLines_fit {c : Composition} (hc : c.Fits) {intro : Option Members}
    (h : ∀ bag, intro = some bag → bag.MarkupFree) : (introLines c intro).Ensures Fitting := by
  cases intro with
  | none => exact Render.Ensures.pure rfl
  | some bag =>
    refine Render.Ensures.bind (hc.component _ bag (h bag rfl)) fun m hm => Render.Ensures.pure ?_
    simpa [Fitting, Node.fits] using hm

theorem buttonLines_fit {c : Composition} (hc : c.Fits) (size : String) {bags : List Members}
    (h : ∀ bag ∈ bags, bag.MarkupFree) (isFirst : Bool) : (buttonLines c size isFirst bags).Ensures Fitting := by
  induction bags generalizing isFirst with
  | nil => exact Render.Ensures.pure rfl
  | cons bag rest ih =>
    have hbag := markupFree_buttonBag (h bag List.mem_cons_self) size isFirst
    refine Render.Ensures.bind (hc.component _ _ hbag) fun m hm => ?_
    refine Render.Ensures.bind (ih (fun b hmem => h b (List.mem_cons_of_mem _ hmem)) false) fun others ho => ?_
    refine Render.Ensures.pure ?_
    simpa [Fitting, Node.fits] using ⟨hm, ho⟩

theorem template_fits {c : Composition} (hc : c.Fits) {props : Members} (h : props.Harmless) :
    (template c props).Ensures Fitting := by
  simp only [template]
  have hchildren := Value.isMarkupFree_orElse (h.values "children") (show (Value.list []).isMarkupFree = true from rfl)
  refine Render.Ensures.bind (hc.consult "hero") fun parent hp => Render.Ensures.bind_result fun children hvs => ?_
  have hselect := markupFree_select c hp (Helper.isMarkupFree_items hchildren hvs) Selection.markupFree_empty 0
  refine Render.Ensures.bind hselect fun chosen hs => Render.Ensures.bind_result fun css _ => ?_
  refine Render.Ensures.bind (introLines_fit hc hs.intro) fun intro hintro => ?_
  refine Render.Ensures.bind (buttonLines_fit hc _ hs.buttons true) fun buttons hbuttons => Render.Ensures.pure ?_
  have hintro : fits library intro = true := hintro
  have hbuttons : fits library buttons = true := hbuttons
  simp +decide [Fitting, h.editable_eq, hintro, hbuttons]

end Hero
namespace DataTable
open Helper

theorem except_mapM_forall {α β : Type} {f : α → Except Fault β} {P : β → Prop} (h : ∀ a b, f a = .ok b → P b)
    {l : List α} {bs : List β} (hl : l.mapM f = .ok bs) : ∀ b ∈ bs, P b := by
  induction l generalizing bs with
  | nil =>
    cases hl
    exact fun _ hb => by cases hb
  | cons a rest ih =>
    rw [List.mapM_cons] at hl
    obtain ⟨b, hb, hl⟩ := except_bind_eq_ok.mp hl
    obtain ⟨others, ho, hl⟩ := except_bind_eq_ok.mp hl
    cases hl
    simpa using ⟨h a b hb, ih ho⟩

/-! ### Head -/

theorem headLines_fit {l : Layout} {column : Value} {m : Markup} (h : headLines l column = .ok m) :
    fits library m = true := by
  obtain ⟨flagged, -, h⟩ := except_bind_eq_ok.mp h
  obtain ⟨align, -, h⟩ := except_bind_eq_ok.mp h
  obtain ⟨sorted, -, h⟩ := except_bind_eq_ok.mp h
  obtain ⟨css, -, h⟩ := except_bind_eq_ok.mp h
  obtain ⟨width, -, h⟩ := except_bind_eq_ok.mp h
  obtain ⟨label, -, h⟩ := except_bind_eq_ok.mp h
  cases h
  simp +decide [sortIcon, Node.fits]

theorem selectAllLines_fit : fits library selectAllLines = true := by
  decide

theorem headSection_fits {l : Layout} {m : Markup} (h : headSection l = .ok m) : fits library m = true := by
  unfold headSection at h
  split at h
  · cases h
    rfl
  · obtain ⟨cells, hcells, h⟩ := except_bind_eq_ok.mp h
    cases h
    have hflat := fits_flatten (except_mapM_forall (fun _ _ => headLines_fit) hcells)
    simp +decide [Node.fits, selectAllLines_fit, hflat]

/-! ### Body -/

section
variable {c : Composition} (hc : c.Fits)
include hc

theorem emptyActionLines_fit {props : Members} (h : props.Harmless) : (emptyActionLines c props).Ensures Fitting := by
  have haction := Value.isMarkupFree_orElse (h.values "empty_action") (show (Value.object []).isMarkupFree = true from rfl)
  simp only [emptyActionLines]
  refine Render.Ensures.bind_result fun name _ => ?_
  split
  · refine Render.Ensures.bind_result fun given hgiven => ?_
    obtain ⟨delegated, hdelegated, hfree⟩ := markupFree_member_props haction hgiven
    rw [hdelegated]
    refine Render.Ensures.bind (hc.child name hfree none) fun m hm => Render.Ensures.pure ?_
    simp +decide [Fitting, show fits library m = true from hm]
  · exact Render.Ensures.pure rfl

theorem emptyRow_fits (l : Layout) {props : Members} (h : props.Harmless) : (emptyRow c l props).Ensures Fitting := by
  simp only [emptyRow]
  refine Render.Ensures.bind (emptyActionLines_fit hc h) fun action ha => Render.Ensures.pure ?_
  -- The icon would be printed verbatim, but there is none.
  simp +decide [Fitting, Node.fits, h.absent "empty_icon" (by decide), show fits library action = true from ha]

theorem delegated_fits (name row : Value) {delegate : Value} (h : delegate.isMarkupFree = true) :
    (delegated c name delegate row).Ensures Fitting := by
  unfold delegated
  refine Render.Ensures.bind_result fun given hgiven => ?_
  obtain ⟨props, hprops, hfree⟩ := markupFree_member_props h hgiven
  simp only [hprops, Value.members?]
  exact hc.child name (hfree.interpolate row) none

theorem cellLines_fit (row : Value) {column : Value} (h : column.isMarkupFree = true) :
    (cellLines c row column).Ensures Fitting := by
  simp only [cellLines]
  refine Render.Ensures.bind_result fun align _ => Render.Ensures.bind_result fun component hcomponent => ?_
  have hdelegate : (component.orElse (.object [])).isMarkupFree = true :=
    Value.isMarkupFree_orElse (isMarkupFree_member h rfl hcomponent) rfl
  refine Render.Ensures.bind_result fun css _ => Render.Ensures.bind_result fun name _ => ?_
  refine Render.Ensures.bind_result fun key _ => ?_
  have hcell : ∀ content, Fitting content → Fitting (blockLine 12 "td" [.classed css] content) := fun content hm => by
    simp +decide [Fitting, show fits library content = true from hm]
  split
  · refine Render.Ensures.bind (delegated_fits hc name row hdelegate) fun m hm => ?_
    exact Render.Ensures.pure (hcell _ (by simpa [Fitting] using hm))
  · split
    · exact Render.Ensures.pure (hcell _ rfl)
    · exact Render.Ensures.bind_result fun v _ => Render.Ensures.pure (hcell _ (by simp [Fitting]))

theorem allCellLines_fit (row : Value) {columns : List Value} (h : ∀ column ∈ columns, column.isMarkupFree = true) :
    (allCellLines c row columns).Ensures Fitting := by
  induction columns with
  | nil => exact Render.Ensures.pure rfl
  | cons column rest ih =>
    refine Render.Ensures.bind (cellLines_fit hc row (h column List.mem_cons_self)) fun cell hcell => ?_
    refine Render.Ensures.bind (ih fun other hmem => h other (List.mem_cons_of_mem _ hmem)) fun others ho => ?_
    exact Render.Ensures.pure (by simpa [Fitting] using ⟨hcell, ho⟩)

theorem actionLines_fit (row : Value) {actions : List Value} (h : ∀ action ∈ actions, action.isMarkupFree = true) :
    (actionLines c row actions).Ensures Fitting := by
  induction actions with
  | nil => exact Render.Ensures.pure rfl
  | cons action rest ih =>
    refine Render.Ensures.bind_result fun name _ => ?_
    refine Render.Ensures.bind (delegated_fits hc _ row (h action List.mem_cons_self)) fun m hm => ?_
    refine Render.Ensures.bind (ih fun other hmem => h other (List.mem_cons_of_mem _ hmem)) fun others ho => ?_
    exact Render.Ensures.pure (by simpa [Fitting] using ⟨hm, ho⟩)

theorem actionCell_fits {l : Layout} (h : l.actions.isMarkupFree = true) (row : Value) :
    (actionCell c l row).Ensures Fitting := by
  unfold actionCell
  split
  · refine Render.Ensures.bind_result fun actions hactions => ?_
    refine Render.Ensures.bind (actionLines_fit hc row (isMarkupFree_items h hactions)) fun m hm => ?_
    exact Render.Ensures.pure (by simp +decide [Fitting, show fits library m = true from hm])
  · exact Render.Ensures.pure rfl

theorem rowLines_fit {l : Layout} (hcolumns : ∀ column ∈ l.columns, column.isMarkupFree = true)
    (hactions : l.actions.isMarkupFree = true) (row : Value) : (rowLines c l row).Ensures Fitting := by
  unfold rowLines
  refine Render.Ensures.bind_result fun id _ => Render.Ensures.bind_result fun selected _ => ?_
  refine Render.Ensures.bind_result fun css _ => ?_
  refine Render.Ensures.bind (allCellLines_fit hc row hcolumns) fun cells hcells => ?_
  refine Render.Ensures.bind (actionCell_fits hc hactions row) fun actions ha => Render.Ensures.pure ?_
  simp +decide [Fitting, Node.fits, selectLines, show fits library cells = true from hcells,
    show fits library actions = true from ha]

theorem allRowLines_fit {l : Layout} (hcolumns : ∀ column ∈ l.columns, column.isMarkupFree = true)
    (hactions : l.actions.isMarkupFree = true) (rows : List Value) : (allRowLines c l rows).Ensures Fitting := by
  induction rows with
  | nil => exact Render.Ensures.pure rfl
  | cons row rest ih =>
    refine Render.Ensures.bind (rowLines_fit hc hcolumns hactions row) fun lines hlines => ?_
    refine Render.Ensures.bind ih fun others ho => Render.Ensures.pure ?_
    simpa [Fitting] using ⟨hlines, ho⟩

theorem template_fits {props : Members} (h : props.Harmless) : (template c props).Ensures Fitting := by
  simp only [template]
  refine Render.Ensures.bind_result fun l hl => Render.Ensures.bind_result fun head hhead => ?_
  obtain ⟨columns, hcolumns, hl⟩ := except_bind_eq_ok.mp hl
  cases hl
  have hfree : ∀ key, ((props.get key).orElse (.list [])).isMarkupFree = true := fun key =>
    Value.isMarkupFree_orElse (h.values key) rfl
  have htable : ∀ body, Fitting body → Fitting [block 0 "div" (.classed "anti-table-wrap" :: editable props)
      (line 0 (block 0 "table" [.classed "anti-table"]
        (head ++ blockLine 4 "tbody" [.classed "anti-table__body"] body)))] := fun body hbody => by
    simp +decide [Fitting, h.editable_eq, headSection_fits hhead, show fits library body = true from hbody]
  split
  · refine Render.Ensures.bind_result fun rows _ => ?_
    refine Render.Ensures.bind ?_ fun body hbody => Render.Ensures.pure (htable body hbody)
    exact allRowLines_fit hc (isMarkupFree_items (hfree "columns") hcolumns) (hfree "actions") rows
  · exact Render.Ensures.bind (emptyRow_fits hc _ h) fun body hbody => Render.Ensures.pure (htable body hbody)

end
end DataTable
end DesignKit
