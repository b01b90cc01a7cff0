import DesignKit.Proofs.Levels
import DesignKit.Proofs.Policy
import DesignKit.Proofs.Html.Templates
import DesignKit.Proofs.Wrapper
import Mathlib.Data.List.Forall2

/-! # Props that are not read

A template looks its props up under keys of its own and does nothing else with them. So of the props of a node
only the values under those keys count, neither their order nor what else there is, wherever the node lies among
the children of containers, sections and heroes. -/

namespace DesignKit
open Render

namespace Members

theorem get_set_self (m : Members) (key : String) (v : Value) : (m.set key v).get key = v := by
  rw [get, get?_set_self, Option.getD_some]

/-- Two bags have the same values under keys. -/
def SameAt (keys : List String) (p q : Members) : Prop :=
  ∀ key ∈ keys, p.get? key = q.get? key

namespace SameAt
variable {keys : List String} {p q r : Members}

theorem trans (h : SameAt keys p q) (h' : SameAt keys q r) : SameAt keys p r :=
  fun key hkey => (h key hkey).trans (h' key hkey)

theorem of_perm (hkeys : p.keys.Nodup) (h : p.Perm q) : SameAt keys p q :=
  fun key _ => get?_perm hkeys h key

theorem set {key : String} (h : key ∉ keys) (v : Value) : SameAt keys p (p.set key v) := by
  intro k hk
  have hne : k ≠ key := fun heq => h (heq ▸ hk)
  rw [get?_set_ne p v hne]

theorem without {key : String} (h : key ∉ keys) : SameAt keys p (p.filter (·.1 != key)) := by
  intro k hk
  have hne : k ≠ key := fun heq => h (heq ▸ hk)
  exact (lookup_filter_ne p hne).symm

theorem get (h : SameAt keys p q) {key : String} (hkey : key ∈ keys) : p.get key = q.get key := by
  rw [Members.get, Members.get, h key hkey]

theorem getD (h : SameAt keys p q) {key : String} (hkey : key ∈ keys) (v : Value) : p.getD key v = q.getD key v := by
  rw [Members.getD, Members.getD, h key hkey]

end SameAt
end Members

/-- The keys under which the template of a component reads its props. -/
def Bundled.reads : Bundled → List String
  | badge => ["text", "variant", "size", "class", "editable"]
  | button => ["text", "url", "variant", "size", "full_width", "shadow", "colorway", "editable"]
  | card => ["title", "description", "image", "image_alt", "icon", "link_url", "link_text", "image_position",
      "image_ratio", "editable"]
  | codeBlock => ["code", "language", "title", "line_numbers", "max_height", "editable"]
  | container => ["layout", "columns", "custom_columns", "direction", "wrap", "gap", "align_items", "justify",
      "children", "editable"]
  | faq => ["question", "answer", "initially_open", "variant", "editable"]
  | hero => ["alignment", "size", "background_image", "colorway", "children", "editable"]
  | intro => ["eyebrow", "title", "subtitle", "align", "size", "editable"]
  | .section => ["colorway", "padding_top", "padding_bottom", "gap", "children", "editable"]
  | select => ["display", "label", "name", "options", "value", "placeholder", "helper_text", "error_text", "required",
      "disabled", "size", "colorway", "class", Composition.indexKey, "editable"]
  | stats => ["value", "label", "prefix", "suffix", "description", "colorway", "editable"]
  | table => ["columns", "data", "row_key", "sortable", "sort_by", "sort_direction", "selectable", "selected", "actions",
      "empty_icon", "empty_title", "empty_text", "empty_action", "editable"]
  | testimonial => ["quote", "author_name", "author_role", "avatar", "rating", "show_rating", "colorway", "editable"]

/-! ### Templates without children -/

namespace Select
variable {p q : Members}

/-- The parts of a field keep the props that they are made of, for what is read from them later. -/
theorem ofProps_of_sameAt (h : p.SameAt Bundled.select.reads q) :
    Parts.ofProps p = (do
      let parts ← Parts.ofProps q
      return { parts with props := p }) := by
  have hget : ∀ key ∈ Bundled.select.reads, p.get key = q.get key := fun _ hkey => h.get hkey
  have hgetD : ∀ key ∈ Bundled.select.reads, ∀ v, p.getD key v = q.getD key v := fun _ hkey => h.getD hkey
  simp (disch := decide) [Parts.ofProps, Parts.classNames, Parts.idOf, hget, hgetD]

theorem allInputLines_with_props (parts : Parts) (display : Value) (index : Nat) (options : List Value) :
    allInputLines { parts with props := p } display index options = allInputLines parts display index options := by
  induction options generalizing index with
  | nil => rfl
  | cons option rest ih =>
    simp only [allInputLines, ih]
    rfl

section
variable {parts : Parts} (h : p.SameAt Bundled.select.reads parts.props)
include h

theorem items_of_sameAt : Parts.items { parts with props := p } = parts.items := by
  have hcolorway : p.get "colorway" = parts.props.get "colorway" := h.get (by decide)
  have heditable : p.get "editable" = parts.props.get "editable" := h.get (by decide)
  simp only [Parts.items, Helper.editable, hcolorway, heditable]

theorem dropdown_of_sameAt (options : List Choice) :
    dropdown { parts with props := p } options = dropdown parts options := by
  have hline : placeholderLine { parts with props := p } = placeholderLine parts := by
    have hplaceholder : p.get "placeholder" = parts.props.get "placeholder" := h.get (by decide)
    simp only [placeholderLine, hplaceholder]
  unfold dropdown
  rw [items_of_sameAt h, hline]
  rfl

theorem buttonGroup_of_sameAt (options : List Choice) :
    buttonGroup { parts with props := p } options = buttonGroup parts options := by
  unfold buttonGroup
  rw [items_of_sameAt h]
  rfl

theorem inputGroup_of_sameAt (inputs : Markup) :
    inputGroup { parts with props := p } inputs = inputGroup parts inputs := by
  unfold inputGroup
  rw [items_of_sameAt h]
  rfl

end

theorem template_of_sameAt (c : Composition) (h : p.SameAt Bundled.select.reads q) : template c p = template c q := by
  have hdisplay : p.get "display" = q.get "display" := h.get (by decide)
  have hoptions : p.get "options" = q.get "options" := h.get (by decide)
  simp only [template, choices, hdisplay, hoptions, ofProps_of_sameAt h]
  cases hparts : Parts.ofProps q with
  | error fault => rfl
  | ok parts =>
    have hprops : p.SameAt Bundled.select.reads parts.props := by rwa [props_of_ofProps hparts]
    simp [dropdown_of_sameAt hprops, buttonGroup_of_sameAt hprops, inputGroup_of_sameAt hprops,
      allInputLines_with_props]

end Select

theorem Bundled.template_of_sameAt {b : Bundled} (hb : "children" ∉ b.reads) (c : Composition) {p q : Members}
    (h : p.SameAt b.reads q) : b.template c p = b.template c q := by
  have hget : ∀ key ∈ b.reads, p.get key = q.get key := fun _ hkey => h.get hkey
  have hgetD : ∀ key ∈ b.reads, ∀ v, p.getD key v = q.getD key v := fun _ hkey => h.getD hkey
  cases b with
  | badge => simp (disch := decide) [template, Badge.template, Badge.classNames, Helper.editable, hget]
  | button => simp (disch := decide) [template, Button.template, Button.classNames, Helper.editable, hget, hgetD]
  | card =>
    simp (disch := decide) [template, Card.template, Card.classNames, Card.iconOf, Card.imageLines, Card.linkLines,
      Card.contentLines, Helper.editable, hget, hgetD]
  | codeBlock =>
    simp (disch := decide) [template, CodeBlock.template, CodeBlock.classNames, CodeBlock.codeLine, Helper.editable, hget]
  | faq => simp (disch := decide) [template, Faq.template, Faq.classNames, Helper.editable, hget, hgetD]
  | intro => simp (disch := decide) [template, Intro.template, Intro.layoutEntries, Helper.editable, hget]
  | stats => simp (disch := decide) [template, Stats.template, Stats.affixLine, Helper.editable, hget, hgetD]
  | table =>
    simp (disch := decide) [template, DataTable.template, DataTable.Layout.ofProps, DataTable.emptyRow,
      DataTable.emptyActionLines, Helper.editable, hget]
  | testimonial =>
    simp (disch := decide) [template, Testimonial.template, Testimonial.ratingOf, Testimonial.authorLines,
      Helper.editable, hget, hgetD]
  | select => exact Select.template_of_sameAt c h
  | container => exact absurd (by decide) hb
  | hero => exact absurd (by decide) hb
  | «section» => exact absurd (by decide) hb

/-! ### Nodes -/

/-- The keys under which the component of a type reads its props. An unknown component reads none. -/
def readsOf (type : String) : List String :=
  ((Bundled.ofName? type).map Bundled.reads).getD []

/-- A node and what becomes of it when a node within it, or the node itself, changes in props that its component
does not read. -/
inductive Unnoticed : Value → Value → Prop
  | props {m p q : Members} :
      (m.get "props").orElse (.object []) = .object p → p.keys.Nodup → q.keys.Nodup →
      p.SameAt (readsOf ((m.get "type").orElse (.text "")).print) q →
      Unnoticed (.object m) (.object (m.set "props" (.object q)))
  | child {m p : Members} (before after : List Value) {v w : Value} :
      m.get? "props" = some (.object p) → p.keys.Nodup →
      p.get? "children" = some (.list (before ++ v :: after)) → Unnoticed v w →
      Unnoticed (.object m) (.object (m.set "props" (.object (p.set "children" (.list (before ++ w :: after))))))

/-- Children that are the same, or lists of nodes of which some have unnoticed changes. -/
def SameChildren (v w : Option Value) : Prop :=
  v = w ∨ ∃ vs ws, v = some (.list vs) ∧ w = some (.list ws) ∧
    List.Forall₂ (fun entry entry' => entry = entry' ∨ Unnoticed entry entry') vs ws

/-- Bags that a template with children among what it reads cannot tell apart. -/
structure Members.Alike (keys : List String) (p q : Members) : Prop where
  same : ∀ key ∈ keys, key ≠ "children" → p.get? key = q.get? key
  children : "children" ∈ keys → SameChildren (p.get? "children") (q.get? "children")

theorem SameChildren.or {v w : Option Value} (h : SameChildren v w) (default : Option Value) :
    SameChildren (v.or default) (w.or default) := by
  rcases h with rfl | ⟨vs, ws, rfl, rfl, h⟩
  · exact .inl rfl
  · exact .inr ⟨vs, ws, rfl, rfl, h⟩

namespace Members.Alike
variable {keys : List String} {p q : Members}

theorem of_sameAt (h : p.SameAt keys q) : Alike keys p q where
  same key hkey _ := h key hkey
  children hkey := .inl (h "children" hkey)

theorem sameAt (h : Alike keys p q) (hkeys : "children" ∉ keys) : p.SameAt keys q := by
  intro key hkey
  have hne : key ≠ "children" := fun heq => hkeys (heq ▸ hkey)
  exact h.same key hkey hne

theorem get (h : Alike keys p q) {key : String} (hkey : key ∈ keys) (hne : key ≠ "children") : p.get key = q.get key := by
  rw [Members.get, Members.get, h.same key hkey hne]

theorem get_children (h : Alike keys p q) (hkey : "children" ∈ keys) :
    p.get "children" = q.get "children" ∨ ∃ vs ws, p.get "children" = .list vs ∧ q.get "children" = .list ws ∧
      List.Forall₂ (fun entry entry' => entry = entry' ∨ Unnoticed entry entry') vs ws := by
  rcases h.children hkey with heq | ⟨vs, ws, hv, hw, hvw⟩
  · exact .inl (by rw [Members.get, Members.get, heq])
  · exact .inr ⟨vs, ws, by rw [Members.get, hv, Option.getD_some], by rw [Members.get, hw, Option.getD_some], hvw⟩

/-- Defaults that are the same for both bags do not tell them apart. -/
theorem or {p' q' : Members} (h : Alike keys p q) {default : String → Option Value}
    (hp : ∀ key, p'.get? key = (p.get? key).or (default key)) (hq : ∀ key, q'.get? key = (q.get? key).or (default key)) :
    Alike keys p' q' where
  same key hkey hne := by
    rw [hp, hq, h.same key hkey hne]
  children hkey := by
    rw [hp, hq]
    exact (h.children hkey).or _

theorem set (h : Alike keys p q) (key : String) (v : Value) : Alike keys (p.set key v) (q.set key v) where
  same k hk hne := by
    rw [get?_set, get?_set, h.same k hk hne]
  children hk := by
    rw [get?_set, get?_set]
    split
    · exact .inl rfl
    · exact h.children hk

theorem childProps (h : Alike keys p q) (hp : p.keys.Nodup) (hq : q.keys.Nodup) (parent : Schema) (index : Nat) :
    Alike keys (Composition.childProps parent index p) (Composition.childProps parent index q) :=
  (h.or (Schema.get?_place parent index hp) (Schema.get?_place parent index hq)).set _ _

theorem handed (h : Alike keys p q) (hp : p.keys.Nodup) (hq : q.keys.Nodup) (own : Schema) :
    Alike keys (own.handed p) (own.handed q) :=
  h.or (Schema.get?_handed own hp) (Schema.get?_handed own hq)

end Members.Alike

namespace Unnoticed

theorem forall_around {v w : Value} (h : Unnoticed v w) (before after : List Value) :
    List.Forall₂ (fun entry entry' => entry = entry' ∨ Unnoticed entry entry') (before ++ v :: after)
      (before ++ w :: after) := by
  have hsame : ∀ entries : List Value,
      List.Forall₂ (fun entry entry' => entry = entry' ∨ Unnoticed entry entry') entries entries :=
    fun entries => List.forall₂_same.mpr fun _ _ => .inl rfl
  exact List.rel_append (hsame before) (.cons (.inr h) (hsame after))

/-- A node keeps its type, and its props stay what its component cannot tell apart from them. -/
theorem node {v w : Value} (h : Unnoticed v w) : ∃ m p q : Members, v = .object m ∧
    w = .object (m.set "props" (.object q)) ∧ (m.get "props").orElse (.object []) = .object p ∧
    p.keys.Nodup ∧ q.keys.Nodup ∧ p.Alike (readsOf ((m.get "type").orElse (.text "")).print) q := by
  cases h with
  | props hprops hp hq hsame => exact ⟨_, _, _, rfl, rfl, hprops, hp, hq, .of_sameAt hsame⟩
  | @child m p before after v w hprops hp hchildren h =>
    have hget : (m.get "props").orElse (.object []) = .object p := by
      have hne : p.isEmpty = false := by
        cases p with
        | nil => cases hchildren
        | cons entry rest => rfl
      simp [Members.get, hprops, Value.orElse, Value.truthy, hne]
    refine ⟨m, p, _, rfl, rfl, hget, hp, Members.nodup_keys_set hp _ _, ?_, ?_⟩
    · intro key _ hne
      rw [Members.get?_set_ne p _ hne]
    · intro _
      exact .inr ⟨_, _, hchildren, Members.get?_set_self _ _ _, h.forall_around before after⟩

theorem invocation {v w : Value} (h : Unnoticed v w) : ∃ (type : String) (p q : Members),
    Invocation.ofValue v = .ok ⟨type, p⟩ ∧ Invocation.ofValue w = .ok ⟨type, q⟩ ∧ p.keys.Nodup ∧ q.keys.Nodup ∧
      p.Alike (readsOf type) q := by
  obtain ⟨m, p, q, rfl, rfl, hprops, hp, hq, halike⟩ := h.node
  have hprops' : ((m.set "props" (.object q)).get "props").orElse (.object []) = .object q := by
    rw [Members.get_set_self, Value.orElse_object]
  have htype : (m.set "props" (.object q)).get "type" = m.get "type" := by
    rw [Members.get, Members.get?_set_ne _ _ (by decide), Members.get]
  refine ⟨_, p, q, ?_, ?_, hp, hq, halike⟩
  · rw [Invocation.ofValue_object hprops, Members.ofEntries_of_nodup hp]
  · rw [Invocation.ofValue_object hprops', Members.ofEntries_of_nodup hq, htype]

end Unnoticed

/-! ### Templates with children -/

/-- A composition that makes the same of bags that templates cannot tell apart. -/
structure Composition.ReadsOnly (c : Composition) : Prop where
  slots : ∀ name s, c.schema name = .ok s → s.hasProperSlots = true
  component : ∀ (type : String) (p q : Members), p.keys.Nodup → q.keys.Nodup → p.Alike (readsOf type) q →
    c.component (.text type) (.object p) = c.component (.text type) (.object q)

namespace Composition.ReadsOnly
variable {c : Composition} (h : c.ReadsOnly)
include h

theorem childAt {parent : Schema} (hp : parent.hasProperSlots = true) (index : Nat) {entry entry' : Value}
    (he : entry = entry' ∨ Unnoticed entry entry') : c.childAt parent index entry = c.childAt parent index entry' := by
  rcases he with rfl | he
  · rfl
  · obtain ⟨type, p, q, hv, hw, hpk, hqk, halike⟩ := he.invocation
    have hcomponent := h.component type _ _ (nodup_keys_childProps hp index hpk) (nodup_keys_childProps hp index hqk)
      (halike.childProps hpk hqk parent index)
    simp only [Composition.childAt, hv, hw, monadLift_eq, lift_ok, pure_bind, hcomponent]

theorem childList {parent : Schema} (hp : parent.hasProperSlots = true) (index : Nat) {entries entries' : List Value}
    (he : List.Forall₂ (fun entry entry' => entry = entry' ∨ Unnoticed entry entry') entries entries') :
    c.childList parent index entries = c.childList parent index entries' := by
  induction he generalizing index with
  | nil => rfl
  | cons hentry _ ih => rw [childList_cons, childList_cons, h.childAt hp index hentry, ih (index + 1)]

theorem children {keys : List String} (hkeys : "children" ∈ keys) {p q : Members} (hpq : p.Alike keys q) (name : String) :
    c.children (p.get "children") (.named name) = c.children (q.get "children") (.named name) := by
  rcases hpq.get_children hkeys with heq | ⟨vs, ws, hv, hw, hvw⟩
  · rw [heq]
  · have htruthy : (Value.list vs).truthy = (Value.list ws).truthy := by
      cases hvw <;> rfl
    simp only [Composition.children, hv, hw, htruthy]
    split
    · refine bind_congr_of_ok fun parent hparent => ?_
      have hp : parent.hasProperSlots = true := by
        rcases parentSchema_named_eq_ok hparent with rfl | hparent
        · rfl
        · exact h.slots name parent hparent
      have hlist := h.childList hp 0 hvw
      simp only [Helper.items, Value.items?, monadLift_eq, lift_ok, pure_bind, hlist]
    · rfl

end Composition.ReadsOnly

theorem Wrapper.template_alike {c : Composition} (h : c.ReadsOnly) (w : Wrapper) {p q : Members}
    (hpq : p.Alike w.bundled.reads q) : w.bundled.template c p = w.bundled.template c q := by
  have hget : ∀ key ∈ w.bundled.reads, key ≠ "children" → p.get key = q.get key := fun _ hkey hne => hpq.get hkey hne
  have hitems : w.items p = w.items q := by
    cases w with
    | container =>
      simp (disch := decide) [items, Container.layoutEntries, Container.customColumns, Helper.editable, hget]
    | «section» => simp (disch := decide) [items, Section.layoutEntries, Helper.editable, hget]
  have hchildren : "children" ∈ w.bundled.reads := by
    cases w <;> decide
  rw [template_eq, template_eq, h.children hchildren hpq]
  refine bind_congr fun content => ?_
  cases w <;> simp only [markup, hitems]

namespace Hero

/-- Bags from which the component of a type makes the same. -/
def SameBags (type : String) (p q : Members) : Prop :=
  p = q ∨ p.keys.Nodup ∧ q.keys.Nodup ∧ p.SameAt (readsOf type) q

structure Selection.Alike (s t : Selection) : Prop where
  intro : Option.Rel (SameBags "intro") s.intro t.intro
  buttons : List.Forall₂ (SameBags "button") s.buttons t.buttons

theorem SameBags.buttonBag {p q : Members} (h : SameBags "button" p q) (size : String) (isFirst : Bool) :
    SameBags "button" (buttonBag size isFirst p) (buttonBag size isFirst q) := by
  rcases h with rfl | ⟨hp, hq, h⟩
  · exact .inl rfl
  · have hshadow : p.getD "shadow" (.bool false) = q.getD "shadow" (.bool false) := h.getD (by decide) _
    refine .inr ⟨Members.nodup_keys_set (Members.nodup_keys_set hp _ _) _ _,
      Members.nodup_keys_set (Members.nodup_keys_set hq _ _) _ _, fun key hkey => ?_⟩
    rw [Hero.buttonBag, Hero.buttonBag, hshadow, Members.get?_set, Members.get?_set, Members.get?_set, Members.get?_set,
      h key hkey]

theorem isNone_of_rel {R : Members → Members → Prop} {a b : Option Members} (h : Option.Rel R a b) : a.isNone = b.isNone := by
  cases h <;> rfl

theorem isEmpty_of_forall {R : Members → Members → Prop} {l l' : List Members} (h : List.Forall₂ R l l') :
    l.isEmpty = l'.isEmpty := by
  cases h <;> rfl

theorem Selection.Alike.add {s t : Selection} (h : s.Alike t) {type : String} {p q : Members}
    (hpq : type = "intro" ∨ type = "button" → SameBags type p q) :
    (s.add (.text type) p).Alike (t.add (.text type) q) := by
  have hnone : s.intro.isNone = t.intro.isNone := isNone_of_rel h.intro
  have hlength : s.buttons.length = t.buttons.length := h.buttons.length_eq
  unfold Selection.add
  by_cases hintro : type = "intro"
  · subst hintro
    rw [hnone]
    split
    · exact ⟨.some (hpq (.inl rfl)), h.buttons⟩
    · exact h
  · by_cases hbutton : type = "button"
    · subst hbutton
      have hbag : SameBags "button" p q := hpq (.inr rfl)
      have htext : p.get "text" = q.get "text" := by
        rcases hbag with rfl | ⟨-, -, hsame⟩
        · rfl
        · exact hsame.get (by decide)
      rw [hnone, htext, hlength]
      split
      · rename_i hfalse
        cases hfalse
      · split
        · exact ⟨h.intro, List.rel_append h.buttons (.cons hbag .nil)⟩
        · exact h
    · simp [Value.same, hintro, hbutton, h]

/-- The bags that a hero makes of a node before and after an unnoticed change. -/
theorem childBag_alike {parent : Schema} (hp : parent.hasProperSlots = true) (index : Nat) {v w : Value}
    (hvw : Unnoticed v w) {type : String} (htype : part? v "type" = some (.text type)) :
    ∃ p q, childBag parent index ((part? v "props").getD .null) = .ok p ∧
      childBag parent index ((part? w "props").getD .null) = .ok q ∧
      (type = "intro" ∨ type = "button" → SameBags type p q) := by
  obtain ⟨m, p, q, rfl, rfl, hprops, hpk, hqk, halike⟩ := hvw.node
  rw [Invocation.print_type htype] at halike
  have hplaced := Schema.nodup_keys_place hp index hpk
  have hplaced' := Schema.nodup_keys_place hp index hqk
  have hbag := childBag_object parent index hprops
  have hbag' := childBag_object parent index (Value.orElse_object q)
  rw [Members.ofEntries_of_nodup hplaced] at hbag
  rw [Members.ofEntries_of_nodup hplaced'] at hbag'
  have hpart : (part? (.object (m.set "props" (.object q))) "props").getD .null = .object q :=
    Members.get_set_self m _ _
  refine ⟨_, _, hbag, by rw [hpart, hbag'], fun hshown => ?_⟩
  have hleaf : "children" ∉ readsOf type := by
    rcases hshown with rfl | rfl <;> decide
  exact .inr ⟨Members.nodup_keys_set hplaced _ _, Members.nodup_keys_set hplaced' _ _,
    (halike.childProps hpk hqk parent index).sameAt hleaf⟩

/-- What goes on alike from selections that are alike goes on alike from the selection among alike children. -/
theorem bind_select_alike {c : Composition} {α : Type} {parent : Schema} (hp : parent.hasProperSlots = true) (index : Nat)
    {entries entries' : List Value}
    (he : List.Forall₂ (fun entry entry' => entry = entry' ∨ Unnoticed entry entry') entries entries')
    {s t : Selection} (hst : s.Alike t) {f g : Selection → Render α} (hfg : ∀ s t, s.Alike t → f s = g t) :
    select c parent index entries s >>= f = select c parent index entries' t >>= g := by
  induction he generalizing index s t with
  | nil => exact hfg s t hst
  | @cons entry entry' rest rest' hentry _ ih =>
    have htype : part? entry "type" = part? entry' "type" := by
      rcases hentry with rfl | hentry
      · rfl
      · obtain ⟨m, p, q, rfl, rfl, -⟩ := hentry.node
        exact (Members.get?_set_ne m _ (by decide)).symm
    simp only [select, LawfulMonad.bind_assoc, ← htype]
    refine bind_congr_of_ok fun admitted hadmitted => ?_
    cases admitted with
    | false => exact ih (index + 1) hst
    | true =>
      obtain ⟨type, hname, -⟩ := Composition.admits_eq_true hadmitted
      simp only [if_pos, LawfulMonad.bind_assoc, hname, Option.getD_some]
      rcases hentry with rfl | hentry
      · exact bind_congr fun bag => ih (index + 1) (hst.add fun _ => .inl rfl)
      · obtain ⟨p, q, hbag, hbag', hsame⟩ := childBag_alike hp index hentry hname
        simp only [hbag, hbag', monadLift_eq, lift_ok, pure_bind]
        exact ih (index + 1) (hst.add hsame)

section
variable {c : Composition} (h : c.ReadsOnly)
include h

theorem SameBags.component {type : String} {p q : Members} (hpq : SameBags type p q) :
    c.component (.text type) (.object p) = c.component (.text type) (.object q) := by
  rcases hpq with rfl | ⟨hp, hq, hpq⟩
  · rfl
  · exact h.component type p q hp hq (.of_sameAt hpq)

theorem introLines_alike {intro intro' : Option Members} (hi : Option.Rel (SameBags "intro") intro intro') :
    introLines c intro = introLines c intro' := by
  cases hi with
  | none => rfl
  | some hbag => simp only [introLines, hbag.component h]

theorem buttonLines_alike (size : String) {bags bags' : List Members} (hb : List.Forall₂ (SameBags "button") bags bags')
    (isFirst : Bool) : buttonLines c size isFirst bags = buttonLines c size isFirst bags' := by
  induction hb generalizing isFirst with
  | nil => rfl
  | cons hbag _ ih => simp only [buttonLines, (hbag.buttonBag size isFirst).component h, ih]

theorem template_alike {p q : Members} (hpq : p.Alike Bundled.hero.reads q) : template c p = template c q := by
  have hget : ∀ key ∈ Bundled.hero.reads, key ≠ "children" → p.get key = q.get key := fun _ hkey hne => hpq.get hkey hne
  have hnames : classNames p = classNames q := by
    simp (disch := decide) [classNames, hget]
  have hsize : buttonSize p = buttonSize q := by
    simp (disch := decide) [buttonSize, hget]
  have heditable : Helper.editable p = Helper.editable q := by
    simp (disch := decide) [Helper.editable, hget]
  have hcolorway : p.get "colorway" = q.get "colorway" := hget _ (by decide) (by decide)
  have himage : p.get "background_image" = q.get "background_image" := hget _ (by decide) (by decide)
  unfold template
  rw [hnames, hsize, heditable, hcolorway, himage]
  refine bind_congr_of_ok fun parent hparent => ?_
  have hp : parent.hasProperSlots = true := h.slots _ parent (Composition.consult_eq_ok hparent)
  rcases hpq.get_children (by decide) with heq | ⟨vs, ws, hv, hw, hvw⟩
  · rw [heq]
  · have hitems : ∀ entries : List Value, Helper.items ((Value.list entries).orElse (.list [])) = .ok entries := by
      rintro (_ | ⟨entry, rest⟩) <;> rfl
    rw [hv, hw, hitems, hitems]
    refine bind_select_alike hp 0 hvw ⟨.none, .nil⟩ fun s t hst => bind_congr fun css => ?_
    rw [introLines_alike h hst.intro, buttonLines_alike h _ hst.buttons]
    refine bind_congr fun intro => bind_congr fun buttons => ?_
    rw [isEmpty_of_forall hst.buttons]

end
end Hero

theorem Bundled.template_alike {c : Composition} (h : c.ReadsOnly) (b : Bundled) {p q : Members}
    (hpq : p.Alike b.reads q) : b.template c p = b.template c q := by
  cases b with
  | container => exact Wrapper.template_alike h .container hpq
  | «section» => exact Wrapper.template_alike h .section hpq
  | hero => exact Hero.template_alike h hpq
  | _ => exact template_of_sameAt (by decide) c (hpq.sameAt (by decide))

/-! ### Renderers -/

theorem Bundled.hasProperSlots_schemaOf (name : String) : (schemaOf name).hasProperSlots = true := by
  unfold schemaOf
  split
  · rename_i b _
    cases b <;> decide
  · rfl

namespace Renderer
variable {policy : Policy}

theorem component_unknown {type : String} (h : Bundled.ofName? type = none) (depth : Nat) (props : Value) :
    (bundle policy).component (depth + 1) (.text type) props = Render.fail (.unknownComponent type) := by
  have hfind : (bundle policy).registry.find? type = none :=
    (Registry.find?_bundle type).trans (congrArg (Option.map RenderFunction.bundled) h)
  have hfunction : (bundle policy).function (.text type) = .error (.unknownComponent type) := by
    simp only [function, hfind]
  exact component_of_error hfunction depth props

theorem readsOnly_component (depth : Nat) :
    ((bundle policy).composition ((bundle policy).component depth)).ReadsOnly := by
  have hslots : ∀ name s, (bundle policy).schema name = .ok s → s.hasProperSlots = true := by
    intro name s hs
    cases hs
    exact Bundled.hasProperSlots_schemaOf name
  refine ⟨hslots, fun type p q hp hq hpq => ?_⟩
  -- On the levels: a component composes others with one level less.
  induction depth generalizing type p q with
  | zero => rfl
  | succ depth ih =>
    show (bundle policy).component (depth + 1) _ _ = (bundle policy).component (depth + 1) _ _
    cases hb : Bundled.ofName? type with
    | none => rw [component_unknown hb, component_unknown hb]
    | some b =>
      have hfind : (bundle policy).registry.find? type = some (.bundled b) :=
        (Registry.find?_bundle type).trans (congrArg (Option.map RenderFunction.bundled) hb)
      have hschema : (bundle policy).schema type = .ok b.schema := by
        simp only [bundle, Bundled.schemaOf, hb]
      have hreads : readsOf type = b.reads := by
        rw [readsOf, hb]
        rfl
      rw [component_of_find? hfind hschema, component_of_find? hfind hschema]
      exact bind_congr fun _ => b.template_alike ⟨hslots, ih⟩ (hreads ▸ hpq.handed hp hq b.schema)

/-- Of the props of a node only what its component reads counts for the rendering, its result and its warnings. -/
theorem render_unnoticed (policy : Policy) {v w : Value} (h : Unnoticed v w) :
    (bundle policy).render v = (bundle policy).render w := by
  obtain ⟨type, p, q, hv, hw, hp, hq, halike⟩ := h.invocation
  -- Both sides get as many levels as either of them needs.
  have hpos : 0 < (Value.object p).depth + (Value.object q).depth := by
    have := Value.one_le_depth_object p
    omega
  rw [render_of_ofValue policy hv, render_of_ofValue policy hw, renderNode, renderNode,
    ← component_eq_renderComponent hpos (Nat.le_add_right _ _), ← component_eq_renderComponent hpos (Nat.le_add_left _ _)]
  have hreads : ((bundle policy).composition ((bundle policy).component
      ((Value.object p).depth + (Value.object q).depth))).ReadsOnly := readsOnly_component _
  exact hreads.component type p q hp hq halike

/-- The button of a hero, with its props in another order, without a note and with a hint. -/
theorem render_unnoticed_button :
    let v : Value := .object [("type", .text "hero"), ("props", .object [("size", .text "sm"), ("children", .list [
      .object [("type", .text "button"), ("props", .object
        [("text", .text "Go"), ("url", .text "/go"), ("note", .int 1)])]])])]
    let w : Value := .object [("type", .text "hero"), ("props", .object [("size", .text "sm"), ("children", .list [
      .object [("type", .text "button"), ("props", .object
        [("url", .text "/go"), ("text", .text "Go"), ("hint", .null)])]])])]
    Unnoticed v w ∧ (bundle .refuse).render v = (bundle .refuse).render w := by
  intro v w
  have hsame : Members.SameAt (readsOf "button") [("text", .text "Go"), ("url", .text "/go"), ("note", .int 1)]
      [("url", .text "/go"), ("text", .text "Go"), ("hint", .null)] := by
    have horder : Members.SameAt (readsOf "button") [("text", .text "Go"), ("url", .text "/go"), ("note", .int 1)]
        [("url", .text "/go"), ("text", .text "Go"), ("note", .int 1)] :=
      .of_perm (by decide) (List.Perm.swap _ _ _)
    have hnote : "note" ∉ readsOf "button" := by decide
    have hhint : "hint" ∉ readsOf "button" := by decide
    exact horder.trans ((Members.SameAt.without hnote).trans (Members.SameAt.set hhint .null))
  have hbutton := @Unnoticed.props [("type", .text "button"), ("props", .object
    [("text", .text "Go"), ("url", .text "/go"), ("note", .int 1)])] _ _ rfl (by decide) (by decide) hsame
  have hhero : Unnoticed v w := @Unnoticed.child [("type", .text "hero"), ("props", .object [("size", .text "sm"),
    ("children", .list [_])])] [("size", .text "sm"), ("children", .list [_])] [] [] _ _ rfl (by decide) rfl hbutton
  exact ⟨hhero, render_unnoticed .refuse hhero⟩

end Renderer
end DesignKit
