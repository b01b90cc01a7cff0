import DesignKit.Proofs.Calm
import DesignKit.Proofs.Library

/-! # Congruences of renderings

Two renderers of the library differ only in what they do with the components that a template composes. A
relation that is kept by composing renderings therefore holds between what a template makes of two
compositions as soon as it holds between what these make of each child. -/

namespace DesignKit
open Render

/-- A relation between renderings that is kept by composing them. The second step need only be related where
the right side comes to it. -/
structure Congruence where
  rel : ∀ {α : Type}, Render α → Render α → Prop
  calm : ∀ {α : Type} {x : Render α}, x.Calm → rel x x
  bind : ∀ {α β : Type} {x y : Render α} {f g : α → Render β}, rel x y →
    (∀ a, y.result = .ok a → rel (f a) (g a)) → rel (x >>= f) (y >>= g)

namespace Congruence
variable (R : Congruence) {α β : Type}

theorem pure {a : α} : R.rel (Pure.pure a) (Pure.pure a) := R.calm Calm.pure

theorem lift {x : Except Fault α} (h : Plain x) {f g : α → Render β} (hf : ∀ a, R.rel (f a) (g a)) :
    R.rel (Render.lift x >>= f) (Render.lift x >>= g) :=
  R.bind (R.calm (Calm.lift h)) fun a _ => hf a

end Congruence

/-- Two compositions whose children are related. -/
structure Composition.Related (R : Congruence) (c d : Composition) : Prop where
  schema : ∀ name, ∃ s, c.schema name = .ok s ∧ d.schema name = .ok s
  admits : ∀ type index, R.rel (c.admits type index) (d.admits type index)
  component : ∀ name props, d.isRegistered name = true →
    R.rel (c.component (.text name) props) (d.component (.text name) props)
  /-- What a hero shows is always there. -/
  shown : ∀ name ∈ ["intro", "button"], d.isRegistered name = true

namespace Composition.Related
variable {R : Congruence} {c d : Composition} (h : Related R c d)
include h

theorem consult (name : String) : R.rel (c.consult name) (d.consult name) := by
  obtain ⟨s, hc, hd⟩ := h.schema name
  simp only [Composition.consult, hc, hd]
  exact R.lift Plain.ok fun _ => R.calm (Calm.bind Calm.consulted fun _ => Calm.pure)

/-- A child is rendered on both sides if it is rendered on the right. -/
theorem bind_admits {α : Type} (type : Option Value) (index : Option Int) {f g : Bool → Render α}
    (hf : ∀ name, type = some (.text name) → d.isRegistered name = true → R.rel (f true) (g true))
    (hskip : R.rel (f false) (g false)) :
    R.rel (c.admits type index >>= f) (d.admits type index >>= g) := by
  refine R.bind (h.admits type index) fun admitted ha => ?_
  cases admitted with
  | true =>
    obtain ⟨name, htype, hr⟩ := admits_eq_true ha
    exact hf name htype hr
  | false => exact hskip

theorem childAt (parent : Schema) (index : Nat) (entry : Value) :
    R.rel (c.childAt parent index entry) (d.childAt parent index entry) := by
  refine R.lift (Invocation.plain_ofValue entry) fun node => h.bind_admits _ _ ?_ R.pure
  rintro name htype hr
  cases htype
  exact h.component _ _ hr

theorem childList (parent : Schema) (index : Nat) (entries : List Value) :
    R.rel (c.childList parent index entries) (d.childList parent index entries) := by
  induction entries generalizing index with
  | nil => exact R.pure
  | cons entry rest ih =>
    rw [childList_cons, childList_cons]
    exact R.bind (h.childAt parent index entry) fun _ _ => R.bind (ih (index + 1)) fun _ _ => R.pure

theorem parentSchema (name : String) : R.rel (c.parentSchema (.named name)) (d.parentSchema (.named name)) := by
  simp only [Composition.parentSchema]
  split
  · exact R.pure
  · exact h.consult name

theorem children (entries : Value) (name : String) :
    R.rel (c.children entries (.named name)) (d.children entries (.named name)) := by
  unfold Composition.children
  split
  · refine R.bind (h.parentSchema name) fun parent _ => R.lift (Helper.plain_items entries) fun vs => ?_
    exact R.bind (h.childList parent 0 vs) fun _ _ => R.pure
  · exact R.pure

theorem child (type props : Value) (index : Option Int) : R.rel (c.child type props index) (d.child type props index) := by
  refine h.bind_admits _ _ ?_ R.pure
  rintro name htype hr
  cases htype
  exact R.bind (h.component name props hr) fun _ _ => R.pure

end Composition.Related

/-! ### Templates with children -/

section
variable {R : Congruence} {c d : Composition} (h : c.Related R d)
include h

theorem Container.template_related (props : Members) : R.rel (template c props) (template d props) :=
  R.bind (h.children _ _) fun _ _ => R.pure

theorem Section.template_related (props : Members) : R.rel (template c props) (template d props) :=
  R.bind (h.children _ _) fun _ _ => R.pure

namespace Hero

theorem select_related (parent : Schema) (index : Nat) (entries : List Value) (s : Selection) :
    R.rel (select c parent index entries s) (select d parent index entries s) := by
  induction entries generalizing index s with
  | nil => exact R.pure
  | cons child rest ih =>
    refine h.bind_admits _ _ (fun _ _ _ => ?_) (ih _ s)
    exact R.lift (plain_childBag _ _ _) fun bag => ih _ _

theorem introLines_related (intro : Option Members) : R.rel (introLines c intro) (introLines d intro) := by
  cases intro with
  | none => exact R.pure
  | some bag => exact R.bind (h.component _ _ (h.shown "intro" (by decide))) fun _ _ => R.pure

theorem buttonLines_related (size : String) (isFirst : Bool) (bags : List Members) :
    R.rel (buttonLines c size isFirst bags) (buttonLines d size isFirst bags) := by
  induction bags generalizing isFirst with
  | nil => exact R.pure
  | cons bag rest ih =>
    refine R.bind (h.component _ _ (h.shown "button" (by decide))) fun _ _ => ?_
    exact R.bind (ih false) fun _ _ => R.pure

theorem template_related (props : Members) : R.rel (template c props) (template d props) := by
  have hcss : Plain (classNames props) := Helper.plain_classes _
  refine R.bind (h.consult "hero") fun parent _ => R.lift (Helper.plain_items _) fun children => ?_
  refine R.bind (select_related h parent 0 children _) fun chosen _ => R.lift hcss fun css => ?_
  refine R.bind (introLines_related h _) fun intro _ => ?_
  exact R.bind (buttonLines_related h _ _ _) fun _ _ => R.pure

end Hero

namespace DataTable
open Helper

theorem emptyActionLines_related (props : Members) : R.rel (emptyActionLines c props) (emptyActionLines d props) := by
  simp only [emptyActionLines]
  refine R.lift (plain_member _ _ _) fun name => ?_
  split
  · refine R.lift (plain_member _ _ _) fun given => ?_
    exact R.bind (h.child _ _ _) fun _ _ => R.pure
  · exact R.pure

theorem emptyRow_related (l : Layout) (props : Members) : R.rel (emptyRow c l props) (emptyRow d l props) :=
  R.bind (emptyActionLines_related h props) fun _ _ => R.pure

theorem delegated_related (name delegate row : Value) :
    R.rel (delegated c name delegate row) (delegated d name delegate row) := by
  refine R.lift (plain_member _ _ _) fun given => ?_
  simp only
  cases (given.orElse (.object [])).members? with
  | none => exact R.calm (Calm.fail nofun)
  | some m => exact h.child _ _ _

theorem cellLines_related (row column : Value) : R.rel (cellLines c row column) (cellLines d row column) := by
  simp only [cellLines]
  refine R.lift (plain_alignment _) fun align => R.lift (plain_member _ _ _) fun component => ?_
  refine R.lift (plain_classes _) fun css => R.lift (plain_member _ _ _) fun name => ?_
  refine R.lift (plain_member _ _ _) fun key => ?_
  split
  · exact R.bind (delegated_related h _ _ _) fun _ _ => R.pure
  · split
    · exact R.pure
    · exact R.lift (plain_memberAt _ _ _) fun _ => R.pure

theorem allCellLines_related (row : Value) (columns : List Value) :
    R.rel (allCellLines c row columns) (allCellLines d row columns) := by
  induction columns with
  | nil => exact R.pure
  | cons column rest ih => exact R.bind (cellLines_related h row column) fun _ _ => R.bind ih fun _ _ => R.pure

theorem actionLines_related (row : Value) (actions : List Value) :
    R.rel (actionLines c row actions) (actionLines d row actions) := by
  induction actions with
  | nil => exact R.pure
  | cons action rest ih =>
    refine R.lift (plain_member _ _ _) fun name => ?_
    exact R.bind (delegated_related h _ _ _) fun _ _ => R.bind ih fun _ _ => R.pure

theorem actionCell_related (l : Layout) (row : Value) : R.rel (actionCell c l row) (actionCell d l row) := by
  unfold actionCell
  split
  · refine R.lift (plain_items _) fun actions => ?_
    exact R.bind (actionLines_related h row actions) fun _ _ => R.pure
  · exact R.pure

theorem rowLines_related (l : Layout) (row : Value) : R.rel (rowLines c l row) (rowLines d l row) := by
  refine R.lift (plain_memberAt _ _ _) fun id => R.lift (plain_occurs _ _) fun selected => ?_
  refine R.lift (plain_classes _) fun css => R.bind (allCellLines_related h row _) fun cells _ => ?_
  exact R.bind (actionCell_related h l row) fun _ _ => R.pure

theorem allRowLines_related (l : Layout) (rows : List Value) : R.rel (allRowLines c l rows) (allRowLines d l rows) := by
  induction rows with
  | nil => exact R.pure
  | cons row rest ih => exact R.bind (rowLines_related h l row) fun _ _ => R.bind ih fun _ _ => R.pure

theorem template_related (props : Members) : R.rel (template c props) (template d props) := by
  simp only [template]
  refine R.lift (plain_layout props) fun l => R.lift (plain_headSection l) fun head => ?_
  split
  · refine R.lift (plain_items _) fun rows => ?_
    exact R.bind (allRowLines_related h l rows) fun _ _ => R.pure
  · exact R.bind (emptyRow_related h l props) fun _ _ => R.pure

end DataTable

theorem Bundled.template_related (b : Bundled) (props : Members) : R.rel (b.template c props) (b.template d props) := by
  cases b with
  | badge => exact R.calm (Badge.calm_template c props)
  | button => exact R.calm (Button.calm_template c props)
  | card => exact R.calm (Card.calm_template c props)
  | codeBlock => exact R.calm (CodeBlock.calm_template c props)
  | container => exact Container.template_related h props
  | faq => exact R.calm (Faq.calm_template c props)
  | hero => exact Hero.template_related h props
  | intro => exact R.calm (Intro.calm_template c props)
  | «section» => exact Section.template_related h props
  | select => exact R.calm (Select.calm_template c props)
  | stats => exact R.calm (Stats.calm_template c props)
  | table => exact DataTable.template_related h props
  | testimonial => exact R.calm (Testimonial.calm_template c props)

end

/-! ### Renderers of the library -/

namespace Renderer
variable {R : Congruence} {p q : Policy}

theorem related_bundle {f g : Value → Value → Render Markup}
    (hadmits : ∀ type index,
      R.rel (((bundle p).composition f).admits type index) (((bundle q).composition g).admits type index))
    (h : ∀ name b, Bundled.ofName? name = some b → ∀ props, R.rel (f (.text name) props) (g (.text name) props)) :
    ((bundle p).composition f).Related R ((bundle q).composition g) where
  schema name := ⟨Bundled.schemaOf name, rfl, rfl⟩
  admits := hadmits
  component name props hr := by
    rw [isRegistered_bundle] at hr
    obtain ⟨b, hb⟩ := Option.isSome_iff_exists.mp hr
    exact h name b hb props
  shown name hn := by
    rw [isRegistered_bundle]
    revert name
    decide

/-- Components whose nested components are related are related. -/
theorem component_related {depth depth' : Nat}
    (h : ((bundle p).composition ((bundle p).component depth)).Related R
      ((bundle q).composition ((bundle q).component depth')))
    {name : String} {b : Bundled} (hb : Bundled.ofName? name = some b) (props : Value) :
    R.rel ((bundle p).component (depth + 1) (.text name) props) ((bundle q).component (depth' + 1) (.text name) props) := by
  rw [component_bundle hb, component_bundle hb, fill_bundle hb, fill_bundle hb]
  refine R.bind (R.calm ?_) fun bag _ => b.template_related h bag
  exact Calm.bind Calm.consulted fun _ => Calm.bind (Calm.lift (Members.plain_ofValue _)) fun _ => Calm.pure

end Renderer
end DesignKit
