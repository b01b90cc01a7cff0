import DesignKit.Proofs.Nesting
import DesignKit.Proofs.Precedence

/-! # The levels that a rendering needs

A component within another has props that are less deep than those of the other: defaults of schemas and slots
bring no components in, and interpolation puts texts into texts. So a rendering needs no more levels than the
value it renders is deep, and what a renderer would do beyond them makes no difference. -/

namespace DesignKit
open Render

/-! ### Depth -/

namespace Value

mutual

theorem depth_interpolate (context : Value) : ∀ v : Value, (interpolate context v).depth = v.depth
  | .null => rfl
  | .bool _ => rfl
  | .int _ => rfl
  | .float _ => rfl
  | .text _ => rfl
  | .list items => congrArg (· + 1) (depthItems_interpolate context items)
  | .object members => congrArg (· + 1) (depthMembers_interpolate context members)

theorem depthItems_interpolate (context : Value) :
    ∀ items : List Value, depthItems (interpolateItems context items) = depthItems items
  | [] => rfl
  | v :: rest => by
    rw [interpolateItems, depthItems, depthItems, depth_interpolate, depthItems_interpolate]

theorem depthMembers_interpolate (context : Value) :
    ∀ m : List (String × Value), depthMembers (interpolateMembers context m) = depthMembers m
  | [] => rfl
  | (_, v) :: rest => by
    rw [interpolateMembers, depthMembers, depthMembers, depth_interpolate, depthMembers_interpolate]

end

theorem one_le_depth_object (m : Members) : 1 ≤ (object m).depth := by
  simp only [depth]
  omega

/-- There is nothing in a value: it is neither a list with items nor an object with members. -/
def isHollow : Value → Bool
  | list items => items.isEmpty
  | object m => m.isEmpty
  | _ => true

/-- What is in a value lies within a depth. -/
def Within (n : Nat) (v : Value) : Prop :=
  v.depth ≤ n ∨ v.isHollow = true

variable {n : Nat} {v w : Value}

theorem Within.orElse (hv : v.Within n) (hw : w.Within n) : (v.orElse w).Within n := by
  unfold Value.orElse
  split
  · exact hv
  · exact hw

theorem Within.items (h : v.Within n) {items : List Value} (hi : v.items? = some items) : ∀ w ∈ items, w.depth ≤ n := by
  intro w hw
  have hdepth := depth_of_items hi w hw
  rcases h with h | h
  · omega
  · cases v with
    | list vs =>
      cases hi
      rw [List.isEmpty_iff.mp h] at hw
      cases hw
    | object m =>
      cases hi
      rw [List.isEmpty_iff.mp h] at hw
      cases hw
    | _ => exact Nat.le_trans hdepth (Nat.zero_le n)

end Value

namespace Helper
open Value
variable {n : Nat} {v w : Value} {key : String}

/-- A member of a value is less deep than the value, unless there is none. -/
theorem depth_member (h : member v key .null = .ok w) (hw : w.isNull = false) :
    ∃ m, v = .object m ∧ m ≠ [] ∧ w.depth < v.depth := by
  cases v with
  | object m =>
    cases h
    cases hget : Members.get? m key with
    | none =>
      simp only [Members.getD, hget] at hw
      cases hw
    | some u =>
      refine ⟨m, rfl, ?_, ?_⟩
      · rintro rfl
        cases hget
      · simp only [Members.getD, hget]
        exact depth_lt_of_get? hget
  | _ => cases h

theorem depth_member_le (h : member v key .null = .ok w) : w.depth ≤ v.depth := by
  cases hw : w.isNull with
  | true =>
    cases w with
    | null => exact Nat.zero_le _
    | _ => cases hw
  | false =>
    obtain ⟨-, -, -, hlt⟩ := depth_member h hw
    exact Nat.le_of_lt hlt

/-- A value that has a member is an object of some depth, and it is what lies within that depth. -/
theorem Within.of_member (hv : v.Within n) (h : member v key .null = .ok w) (hw : w.isNull = false) :
    0 < n ∧ v.depth ≤ n := by
  obtain ⟨m, rfl, hne, -⟩ := depth_member h hw
  rcases hv with hv | hv
  · exact ⟨Nat.lt_of_lt_of_le (one_le_depth_object m) hv, hv⟩
  · exact absurd (List.isEmpty_iff.mp hv) hne

theorem isNull_of_truthy (h : v.truthy = true) : v.isNull = false := by
  cases v with
  | null => cases h
  | _ => rfl

theorem items_within (hv : v.Within n) {vs : List Value} (h : items v = .ok vs) : ∀ w ∈ vs, w.depth ≤ n := by
  unfold items at h
  split at h
  · rename_i hitems
    cases h
    exact hv.items hitems
  · cases h

end Helper

/-! ### Bags -/

/-- What is in the values of a bag lies within a depth. -/
def Members.Within (n : Nat) (bag : Members) : Prop :=
  ∀ key v, bag.get? key = some v → v.Within n

theorem Members.Within.get {n : Nat} {bag : Members} (h : bag.Within n) (key : String) : (bag.get key).Within n := by
  unfold Members.get
  cases hv : bag.get? key with
  | none => exact .inr rfl
  | some v => exact h key v hv

/-- The defaults of a schema have nothing in them. -/
def Schema.isHollow (s : Schema) : Bool :=
  s.fields.all (·.default.isHollow)

theorem Schema.within_fill {s : Schema} (hs : s.isHollow = true) {n : Nat} {props : Members}
    (h : (Value.object props).depth ≤ n + 1) : (s.fill props).Within n := by
  intro key v hv
  rw [get?_fill, Option.or_eq_some_iff] at hv
  rcases hv with hv | ⟨-, hv⟩
  · exact .inl (Nat.le_of_lt_succ (Nat.lt_of_lt_of_le (Value.depth_lt_of_get? hv) h))
  · obtain ⟨field, hfield, rfl⟩ := Option.map_eq_some_iff.mp hv
    exact .inr (List.all_eq_true.mp hs field (List.mem_of_find?_eq_some hfield))

theorem Members.depth_set {n : Nat} {m : Members} (hm : (Value.object m).depth ≤ n + 1) (key : String) {v : Value}
    (hv : v.depth ≤ n) : (Value.object (m.set key v)).depth ≤ n + 1 := by
  refine Value.depth_object_le.mpr fun e he => ?_
  rcases mem_set he with he | heq
  · exact Value.depth_object_le.mp hm e he
  · rwa [heq]

theorem Members.depth_ofValue {v : Value} {m : Members} (h : ofValue v = .ok m) :
    (Value.object m).depth ≤ max v.depth 1 := by
  obtain ⟨entries, hentries, rfl⟩ := ofValue_eq_ok h
  have hdepth := Entries.depth_toMembers (Entries.depth_of_ofValue hentries)
  omega

theorem Schema.depth_placeValue {s : Schema} (hs : s.isFlat = true) {index : Int} {props placed : Value}
    (h : s.placeValue index props = .ok placed) : placed.depth ≤ props.depth := by
  unfold placeValue at h
  split at h
  · rename_i slot m hslot
    cases h
    refine Value.depth_object_le.mpr fun e he => ?_
    rcases Members.mem_update he with he | ⟨e', he', heq⟩
    · rw [depth_slot hs hslot e he]
      exact Nat.zero_le _
    · rw [heq]
      exact Value.depthMembers_le.mp (Nat.le_refl _) e' he'
  · cases h
  · cases h
    exact Nat.le_refl _

theorem Bundled.isFlat_schemaOf (name : String) : (schemaOf name).isFlat = true := by
  unfold schemaOf
  split
  · exact isFlat_schema _
  · rfl

/-! ### Compositions -/

/-- Two compositions that make the same of every component with props up to a depth. -/
structure Composition.Agree (n : Nat) (c d : Composition) : Prop where
  admits : ∀ type index, c.admits type index = d.admits type index
  schema : ∀ name, c.schema name = d.schema name
  flat : ∀ name s, d.schema name = .ok s → s.isFlat = true
  component : ∀ type props, 0 < n → props.depth ≤ n → c.component type props = d.component type props

namespace Composition.Agree
variable {n : Nat} {c d : Composition} (h : Agree n c d)
include h

theorem consult (name : String) : c.consult name = d.consult name := by
  simp only [Composition.consult, h.schema]

theorem childAt {parent : Schema} (hp : parent.isFlat = true) (index : Nat) {entry : Value} (he : entry.depth ≤ n) :
    c.childAt parent index entry = d.childAt parent index entry := by
  refine bind_congr_of_ok fun node hn => ?_
  have hprops : (Value.object (childProps parent index node.props)).depth ≤ n :=
    Nat.le_trans (depth_childProps hp index node.props) (Nat.le_trans (Invocation.depth_props hn) he)
  have hpos : 0 < n := Nat.lt_of_lt_of_le (Value.one_le_depth_object _) hprops
  rw [h.admits, h.component _ _ hpos hprops]

theorem childList {parent : Schema} (hp : parent.isFlat = true) (index : Nat) {entries : List Value}
    (he : ∀ entry ∈ entries, entry.depth ≤ n) : c.childList parent index entries = d.childList parent index entries := by
  induction entries generalizing index with
  | nil => rfl
  | cons entry rest ih =>
    obtain ⟨hentry, hrest⟩ := List.forall_mem_cons.mp he
    rw [childList_cons, childList_cons, h.childAt hp index hentry, ih (index + 1) hrest]

theorem children {entries : Value} (he : entries.Within n) (name : String) :
    c.children entries (.named name) = d.children entries (.named name) := by
  have hparent : c.parentSchema (.named name) = d.parentSchema (.named name) := by
    simp only [parentSchema, h.consult]
  unfold Composition.children
  rw [hparent]
  split
  · refine bind_congr_of_ok fun parent hp => bind_congr_of_ok fun vs hvs => ?_
    have hflat : parent.isFlat = true := by
      rcases parentSchema_named_eq_ok hp with rfl | hp
      · rfl
      · exact h.flat name parent hp
    rw [h.childList hflat 0 (Helper.items_within he hvs)]
  · rfl

theorem child (type : Value) {props : Value} (index : Option Int) (hpos : 0 < n) (hprops : props.depth ≤ n) :
    c.child type props index = d.child type props index := by
  unfold Composition.child
  rw [h.admits, h.component _ _ hpos hprops]

end Composition.Agree

/-! ### Templates -/

section
variable {n : Nat} {c d : Composition} (h : c.Agree n d) {props : Members} (hprops : props.Within n)
include h hprops

theorem Container.template_agree : template c props = template d props := by
  unfold template
  rw [h.children (hprops.get "children")]

theorem Section.template_agree : template c props = template d props := by
  unfold template
  rw [h.children (hprops.get "children")]

end

namespace Hero

section
variable {n : Nat} {parent : Schema} (hp : parent.isFlat = true)
include hp

/-- The bag that a hero makes of a child is no deeper than the child. -/
theorem Makes.depth {children : List Value} (hc : ∀ child ∈ children, child.depth ≤ n) {type : String} {bag : Members}
    (h : Makes parent children type bag) : 0 < n ∧ (Value.object bag).depth ≤ n := by
  obtain ⟨i, child, hchild, htype, hbag⟩ := h
  have hdepth := hc child (List.mem_of_getElem? hchild)
  cases child with
  | object m =>
    have hpos : 0 < n := Nat.lt_of_lt_of_le (Value.one_le_depth_object m) hdepth
    obtain ⟨n, rfl⟩ : ∃ k, n = k + 1 := ⟨n - 1, by omega⟩
    refine ⟨hpos, ?_⟩
    obtain ⟨placed, hplaced, hbag⟩ := except_bind_eq_ok.mp hbag
    obtain ⟨written, hwritten, hbag⟩ := except_bind_eq_ok.mp hbag
    cases hbag
    refine Members.depth_set ?_ _ (Nat.zero_le n)
    have hprops : (((part? (.object m) "props").getD .null).orElse (.object [])).depth ≤ n + 1 := by
      unfold Value.orElse
      split
      · cases hget : Members.get? m "props" with
        | none =>
          simp only [part?, Value.members?, Option.bind_some, hget]
          exact Nat.zero_le _
        | some v =>
          simp only [part?, Value.members?, Option.bind_some, hget]
          exact Nat.le_trans (Nat.le_of_lt (Value.depth_lt_of_get? hget)) hdepth
      · exact Nat.succ_le_succ (Nat.zero_le n)
    have hplacedDepth := Schema.depth_placeValue hp hplaced
    have hwrittenDepth := Members.depth_ofValue hwritten
    omega
  | _ => cases htype

end

section
variable {n : Nat} {c d : Composition} (h : c.Agree n d)
include h

theorem select_agree (parent : Schema) (index : Nat) (entries : List Value) (s : Selection) :
    select c parent index entries s = select d parent index entries s := by
  induction entries generalizing index s with
  | nil => rfl
  | cons child rest ih => simp only [select, h.admits, ih]

theorem introLines_agree {intro : Option Members}
    (hi : ∀ bag, intro = some bag → 0 < n ∧ (Value.object bag).depth ≤ n) : introLines c intro = introLines d intro := by
  cases intro with
  | none => rfl
  | some bag =>
    obtain ⟨hpos, hbag⟩ := hi bag rfl
    simp only [introLines, h.component _ _ hpos hbag]

theorem depth_buttonBag (size : String) (isFirst : Bool) {bag : Members} (hbag : 0 < n ∧ (Value.object bag).depth ≤ n) :
    (Value.object (buttonBag size isFirst bag)).depth ≤ n := by
  obtain ⟨n, rfl⟩ : ∃ k, n = k + 1 := ⟨n - 1, by omega⟩
  refine Members.depth_set (Members.depth_set (v := .text size) hbag.2 _ (Nat.zero_le n)) _ ?_
  split
  · exact Nat.zero_le n
  · unfold Members.getD
    cases hget : bag.get? "shadow" with
    | none => exact Nat.zero_le n
    | some v => exact Nat.le_of_lt_succ (Nat.lt_of_lt_of_le (Value.depth_lt_of_get? hget) hbag.2)

theorem buttonLines_agree (size : String) {bags : List Members}
    (hb : ∀ bag ∈ bags, 0 < n ∧ (Value.object bag).depth ≤ n) (isFirst : Bool) :
    buttonLines c size isFirst bags = buttonLines d size isFirst bags := by
  induction bags generalizing isFirst with
  | nil => rfl
  | cons bag rest ih =>
    obtain ⟨hbag, hrest⟩ := List.forall_mem_cons.mp hb
    simp only [buttonLines, h.component _ _ hbag.1 (depth_buttonBag h size isFirst hbag), ih hrest]

theorem template_agree {props : Members} (hprops : props.Within n) : template c props = template d props := by
  have hchildren : ((props.get "children").orElse (.list [])).Within n := (hprops.get "children").orElse (.inr rfl)
  unfold template
  rw [h.consult]
  refine bind_congr_of_ok fun parent hp => bind_congr_of_ok fun children hc => ?_
  rw [select_agree h]
  have hfrom : (select d parent 0 children ⟨none, []⟩).Ensures (·.From parent children) :=
    select_from d 0 (fun j entry hj => by rwa [Nat.zero_add]) Selection.from_empty
  have hmade : ∀ type bag, Makes parent children type bag → 0 < n ∧ (Value.object bag).depth ≤ n :=
    fun type bag hm => hm.depth (h.flat _ parent (Composition.consult_eq_ok hp)) (Helper.items_within hchildren hc)
  refine Ensures.bind_congr hfrom fun chosen hchosen => bind_congr fun css => ?_
  rw [introLines_agree h fun bag hbag => hmade _ bag (hchosen.intro bag hbag),
    buttonLines_agree h _ fun bag hbag => hmade _ bag (hchosen.buttons bag hbag)]

end
end Hero

namespace DataTable
open Helper

/-- The props that are delegated to a component are no deeper than what delegates to it. -/
theorem depth_delegated {n : Nat} {delegate given : Value} (hpos : 0 < n) (hd : delegate.depth ≤ n)
    (hg : member delegate "props" .null = .ok given) : (given.orElse (.object [])).depth ≤ n := by
  unfold Value.orElse
  split
  · exact Nat.le_trans (depth_member_le hg) hd
  · exact hpos

theorem layout_within {n : Nat} {props : Members} (hprops : props.Within n) {l : Layout}
    (hl : Layout.ofProps props = .ok l) : (∀ column ∈ l.columns, column.depth ≤ n) ∧ l.actions.Within n := by
  obtain ⟨columns, hcolumns, hl⟩ := except_bind_eq_ok.mp hl
  cases hl
  exact ⟨items_within ((hprops.get "columns").orElse (.inr rfl)) hcolumns, (hprops.get "actions").orElse (.inr rfl)⟩

section
variable {n : Nat} {c d : Composition} (h : c.Agree n d)
include h

theorem delegated_agree (name row : Value) {delegate : Value} (hpos : 0 < n) (hd : delegate.depth ≤ n) :
    delegated c name delegate row = delegated d name delegate row := by
  refine bind_congr_of_ok fun given hg => ?_
  have hprops := depth_delegated hpos hd hg
  cases hm : (given.orElse (.object [])).members? with
  | none => simp only [hm]
  | some m =>
    have hobject : given.orElse (.object []) = .object m := by
      cases hv : given.orElse (.object []) with
      | object m' =>
        rw [hv] at hm
        cases hm
        rfl
      | _ =>
        rw [hv] at hm
        cases hm
    have hdepth : (Value.object (m.interpolate row)).depth ≤ n := by
      rw [hobject] at hprops
      exact Nat.le_trans (Nat.le_of_eq (Value.depth_interpolate row (.object m))) hprops
    simp only [hm, h.child name none hpos hdepth]

theorem emptyActionLines_agree {props : Members} (hprops : props.Within n) :
    emptyActionLines c props = emptyActionLines d props := by
  have haction : ((props.get "empty_action").orElse (.object [])).Within n :=
    (hprops.get "empty_action").orElse (.inr rfl)
  refine bind_congr_of_ok fun name hname => ?_
  split
  · rename_i htruthy
    obtain ⟨hpos, hdepth⟩ := Within.of_member haction hname (isNull_of_truthy htruthy)
    refine bind_congr_of_ok fun given hg => ?_
    rw [h.child name none hpos (depth_delegated hpos hdepth hg)]
  · rfl

theorem cellLines_agree (row : Value) {column : Value} (hc : column.depth ≤ n) :
    cellLines c row column = cellLines d row column := by
  refine bind_congr_of_ok fun align _ => bind_congr_of_ok fun component hcomponent => ?_
  have hdelegate : (component.orElse (.object [])).Within n :=
    Value.Within.orElse (.inl (Nat.le_trans (depth_member_le hcomponent) hc)) (.inr rfl)
  refine bind_congr_of_ok fun css _ => bind_congr_of_ok fun name hname => bind_congr_of_ok fun key _ => ?_
  split
  · rename_i htruthy
    obtain ⟨hpos, hdepth⟩ := Within.of_member hdelegate hname (isNull_of_truthy htruthy)
    rw [delegated_agree h name row hpos hdepth]
  · rfl

theorem allCellLines_agree (row : Value) {columns : List Value} (hc : ∀ column ∈ columns, column.depth ≤ n) :
    allCellLines c row columns = allCellLines d row columns := by
  induction columns with
  | nil => rfl
  | cons column rest ih =>
    obtain ⟨hcolumn, hrest⟩ := List.forall_mem_cons.mp hc
    simp only [allCellLines, cellLines_agree h row hcolumn, ih hrest]

theorem actionLines_agree (row : Value) {actions : List Value} (ha : ∀ action ∈ actions, action.depth ≤ n) :
    actionLines c row actions = actionLines d row actions := by
  induction actions with
  | nil => rfl
  | cons action rest ih =>
    obtain ⟨haction, hrest⟩ := List.forall_mem_cons.mp ha
    refine bind_congr_of_ok fun name hname => ?_
    have hpos : 0 < n := by
      cases action with
      | object m => exact Nat.lt_of_lt_of_le (Value.one_le_depth_object m) haction
      | _ => cases hname
    simp only [delegated_agree h _ row hpos haction, ih hrest]

theorem actionCell_agree {l : Layout} (hl : l.actions.Within n) (row : Value) : actionCell c l row = actionCell d l row := by
  unfold actionCell
  split
  · refine bind_congr_of_ok fun actions ha => ?_
    rw [actionLines_agree h row (items_within hl ha)]
  · rfl

theorem allRowLines_agree {l : Layout} (hcolumns : ∀ column ∈ l.columns, column.depth ≤ n)
    (hactions : l.actions.Within n) (rows : List Value) : allRowLines c l rows = allRowLines d l rows := by
  induction rows with
  | nil => rfl
  | cons row rest ih =>
    have hrow : rowLines c l row = rowLines d l row := by
      unfold rowLines
      rw [allCellLines_agree h row hcolumns, actionCell_agree h hactions row]
    simp only [allRowLines, hrow, ih]

theorem template_agree {props : Members} (hprops : props.Within n) : template c props = template d props := by
  refine bind_congr_of_ok fun l hl => bind_congr fun head => ?_
  obtain ⟨hcolumns, hactions⟩ := layout_within hprops hl
  simp only [allRowLines_agree h hcolumns hactions, emptyRow, emptyActionLines_agree h hprops]

end
end DataTable

namespace Bundled

/-- Only the templates that compose others depend on the composition, and these hand out what is in their props. -/
theorem template_agree {n : Nat} {c d : Composition} (h : c.Agree n d) (b : Bundled) {props : Members}
    (hprops : b.schema.isHollow = true → props.Within n) : b.template c props = b.template d props := by
  cases b with
  | container => exact Container.template_agree h (hprops rfl)
  | hero => exact Hero.template_agree h (hprops rfl)
  | «section» => exact Section.template_agree h (hprops rfl)
  | table => exact DataTable.template_agree h (hprops rfl)
  | _ => rfl

end Bundled

/-! ### Levels of a renderer -/

namespace Renderer

/-- The markup of a component, where what is nested beyond some levels is left to a given function. -/
def componentOver (r : Renderer) (beyond : Value → Value → Render Markup) : Nat → Value → Value → Render Markup
  | 0, type, props => beyond type props
  | levels + 1, type, props => do
    let (name, f) ← r.function type
    let bag ← r.fill name props
    f.apply (r.composition (r.componentOver beyond levels)) bag

/-- The markup of a node given by a value, where what is nested beyond some levels is left to a given function. -/
def renderOver (r : Renderer) (beyond : Value → Value → Render Markup) (levels : Nat) (v : Value) : Render Markup := do
  let node ← Invocation.ofValue v
  r.componentOver beyond levels (.text node.type) (.object node.props)

theorem component_eq_componentOver (r : Renderer) (levels : Nat) :
    r.component levels = r.componentOver (fun _ _ => Render.fail .nestedTooDeep) levels := by
  induction levels with
  | zero => rfl
  | succ levels ih =>
    funext type props
    simp only [component, componentOver, ih]

theorem componentOver_add (r : Renderer) (beyond : Value → Value → Render Markup) (levels more : Nat) :
    r.componentOver beyond (levels + more) = r.componentOver (r.componentOver beyond more) levels := by
  induction levels with
  | zero =>
    funext type props
    rw [Nat.zero_add]
    rfl
  | succ levels ih =>
    funext type props
    rw [Nat.succ_add]
    simp only [componentOver, ih]

variable {policy : Policy} {beyond beyond' : Value → Value → Render Markup}

/-- What is in the bag of a component whose defaults have nothing in them lies within the depth of what is in its
props. -/
theorem within_fill {name : String} {b : Bundled} (hb : Bundled.ofName? name = some b) {n : Nat} {props : Value}
    (hprops : props.depth ≤ n + 1) {bag : Members} (h : ((bundle policy).fill name props).result = .ok bag)
    (hs : b.schema.isHollow = true) : bag.Within n := by
  rw [fill_bundle hb] at h
  obtain ⟨-, -, h⟩ := bind_eq_ok.mp h
  obtain ⟨m, hm, h⟩ := bind_eq_ok.mp h
  cases h
  have hdepth := Members.depth_ofValue hm
  have hor : (props.orElse (.object [])).depth ≤ max props.depth 1 := by
    unfold Value.orElse
    split
    · exact Nat.le_max_left _ _
    · exact Nat.le_max_right _ _
  exact Schema.within_fill hs (by omega)

/-- What is nested beyond some levels below a component has props that are less deep by as many levels: functions
that render such components alike cannot be told apart. -/
theorem componentOver_congr (levels : Nat) {n : Nat} {type props : Value} (hn : 0 < n) (hprops : props.depth ≤ n)
    (h : ∀ type props, levels < n → props.depth + levels ≤ n → beyond type props = beyond' type props) :
    (bundle policy).componentOver beyond levels type props = (bundle policy).componentOver beyond' levels type props := by
  induction levels generalizing n type props with
  | zero => exact h type props hn hprops
  | succ levels ih =>
    obtain ⟨n, rfl⟩ : ∃ k, n = k + 1 := ⟨n - 1, by omega⟩
    refine bind_congr_of_ok fun (name, f) hf => bind_congr_of_ok fun bag hbag => ?_
    obtain ⟨b, -, hb, rfl⟩ := function_bundle_eq_ok hf
    have hagree : ((bundle policy).composition ((bundle policy).componentOver beyond levels)).Agree n
        ((bundle policy).composition ((bundle policy).componentOver beyond' levels)) := by
      refine ⟨fun _ _ => rfl, fun _ => rfl, fun name s hs => ?_, fun type props hpos hdepth => ?_⟩
      · cases hs
        exact Bundled.isFlat_schemaOf name
      · exact ih hpos hdepth fun type props hlt hle => h type props (Nat.succ_lt_succ hlt) (Nat.succ_le_succ hle)
    exact b.template_agree hagree (within_fill hb hprops hbag)

/-- Props need no more levels than they are deep, but a component needs one even for props without depth. -/
theorem component_add {depth : Nat} (hpos : 0 < depth) {type props : Value} (hprops : props.depth ≤ depth) (more : Nat) :
    (bundle policy).component (depth + more) type props = (bundle policy).component depth type props := by
  rw [component_eq_componentOver, component_eq_componentOver, componentOver_add]
  exact componentOver_congr depth hpos hprops fun _ _ hlt => absurd hlt (Nat.lt_irrefl depth)

theorem component_eq_renderComponent {depth : Nat} (hpos : 0 < depth) {type props : Value}
    (hprops : props.depth ≤ depth) :
    (bundle policy).component depth type props = (bundle policy).renderComponent type props := by
  have hallowance : 0 < props.depth + allowance := Nat.add_pos_right _ (Nat.succ_pos _)
  rw [renderComponent, ← component_add hpos hprops (props.depth + allowance),
    ← component_add hallowance (Nat.le_add_right _ _) depth, Nat.add_comm depth]

/-- A renderer that does as the renderer of components does beyond some levels is that renderer. -/
theorem componentOver_renderComponent (levels : Nat) (type props : Value) :
    (bundle policy).componentOver (bundle policy).renderComponent levels type props =
      (bundle policy).renderComponent type props := by
  have hdeeper : ∀ type props', props'.depth ≤ props.depth + 1 →
      (bundle policy).renderComponent type props' = (bundle policy).component (props.depth + 1) type props' :=
    fun type props' hle => (component_eq_renderComponent (Nat.succ_pos _) hle).symm
  rw [componentOver_congr levels (Nat.succ_pos props.depth) (Nat.le_succ _) fun type props' _ hle =>
      hdeeper type props' (Nat.le_trans (Nat.le_add_right _ _) hle),
    component_eq_componentOver, ← componentOver_add, ← component_eq_componentOver]
  exact component_eq_renderComponent (Nat.add_pos_right _ (Nat.succ_pos _)) (by omega)

/-- Rendering a node brings in no more levels of components, one within another, than the value of the node is
deep, whatever would become of components beyond them. More precisely, a component that has some levels of
components around it has props that are less deep than the node by as many levels. -/
theorem render_levels (policy : Policy) (v : Value) :
    (∀ beyond more, (bundle policy).renderOver beyond (v.depth + more) v = (bundle policy).render v) ∧
    ∀ beyond levels,
      (∀ type props, levels < v.depth → props.depth + levels ≤ v.depth →
        beyond type props = (bundle policy).renderComponent type props) →
      (bundle policy).renderOver beyond levels v = (bundle policy).render v := by
  have hrender : ∀ beyond levels,
      (∀ type props, levels < v.depth → props.depth + levels ≤ v.depth →
        beyond type props = (bundle policy).renderComponent type props) →
      (bundle policy).renderOver beyond levels v = (bundle policy).render v := by
    intro beyond levels h
    refine bind_congr_of_ok fun node hn => ?_
    have hdepth : (Value.object node.props).depth ≤ v.depth := Invocation.depth_props hn
    have hpos : 0 < v.depth := Nat.lt_of_lt_of_le (Value.one_le_depth_object _) hdepth
    rw [componentOver_congr levels hpos hdepth h]
    exact componentOver_renderComponent levels _ _
  exact ⟨fun beyond more => hrender beyond _ fun _ _ hlt => absurd hlt (Nat.not_lt.mpr (Nat.le_add_right _ _)), hrender⟩

/-- A container with a table whose cells are badges: two levels around props of depth one, in a value that is nine
deep. -/
theorem render_levels_delegated :
    (bundle .skip).renderOver
        (fun type props => if props.depth + 2 ≤ 9 then (bundle .skip).renderComponent type props
          else Render.fail .nestedTooDeep) 2
        (.object [("type", .text "container"), ("props", .object [("children", .list [
          .object [("type", .text "table"), ("props", .object [("data", .list [.object [("n", .int 7)]]),
            ("columns", .list [.object [("component", .object [("name", .text "badge"),
              ("props", .object [("text", .text "No. \x7bn\x7d")])])]])])]])])]) =
      (bundle .skip).render
        (.object [("type", .text "container"), ("props", .object [("children", .list [
          .object [("type", .text "table"), ("props", .object [("data", .list [.object [("n", .int 7)]]),
            ("columns", .list [.object [("component", .object [("name", .text "badge"),
              ("props", .object [("text", .text "No. \x7bn\x7d")])])]])])]])])]) :=
  (render_levels .skip _).2 _ 2 fun _ _ _ hle => if_pos hle

end Renderer
end DesignKit
