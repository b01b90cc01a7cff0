import DesignKit.Bundle
import DesignKit.Proofs.Children

/-! # Values that give no markup

Two props are printed as they are: what an editor adds to an element and the icon of an empty table. A value
gives no markup when no object in it has one of these keys, at any depth, and what its objects hold as props
are objects themselves. This carries over to all that a composition hands from one component to the next. -/

namespace DesignKit

/-- The props that are taken for markup. -/
def markupKeys : List String := ["editable", "empty_icon"]

/-- A key may hold a value: it is not taken for markup, and props are an object. -/
def mayHold (key : String) (v : Value) : Bool :=
  !markupKeys.contains key && (key != "props" || v.members?.isSome)

namespace Value

mutual

/-- A value gives no markup, and its props are objects. -/
def isMarkupFree : Value → Bool
  | list items => areMarkupFree items
  | object members => haveNoMarkup members
  | _ => true

def areMarkupFree : List Value → Bool
  | [] => true
  | v :: rest => isMarkupFree v && areMarkupFree rest

def haveNoMarkup : List (String × Value) → Bool
  | [] => true
  | (key, v) :: rest => mayHold key v && isMarkupFree v && haveNoMarkup rest

end

theorem areMarkupFree_iff {items : List Value} : areMarkupFree items = true ↔ ∀ v ∈ items, v.isMarkupFree = true := by
  induction items with
  | nil => simp [areMarkupFree]
  | cons v rest ih => simp [areMarkupFree, ih]

theorem haveNoMarkup_iff {m : Members} :
    haveNoMarkup m = true ↔ ∀ e ∈ m, mayHold e.1 e.2 = true ∧ e.2.isMarkupFree = true := by
  induction m with
  | nil => simp [haveNoMarkup]
  | cons entry rest ih => simp [haveNoMarkup, ih]

theorem isMarkupFree_orElse {v w : Value} (hv : v.isMarkupFree = true) (hw : w.isMarkupFree = true) :
    (v.orElse w).isMarkupFree = true := by
  unfold orElse
  split
  · exact hv
  · exact hw

/-- The items of a value that gives no markup give none: the keys of an object and the characters of a text
are texts. -/
theorem isMarkupFree_of_items {v : Value} (h : v.isMarkupFree = true) {items : List Value} (hi : v.items? = some items) :
    ∀ w ∈ items, w.isMarkupFree = true := by
  cases v with
  | list vs =>
    cases hi
    exact areMarkupFree_iff.mp h
  | object m =>
    cases hi
    intro w hw
    obtain ⟨e, -, rfl⟩ := List.mem_map.mp hw
    rfl
  | text s =>
    cases hi
    intro w hw
    obtain ⟨c, -, rfl⟩ := List.mem_map.mp hw
    rfl
  | _ => cases hi

end Value

namespace Members
open Value

/-- The members of an object give no markup. -/
def MarkupFree (m : Members) : Prop :=
  haveNoMarkup m = true

theorem MarkupFree.of_get? {m : Members} (h : m.MarkupFree) {key : String} {v : Value} (hv : m.get? key = some v) :
    mayHold key v = true ∧ v.isMarkupFree = true :=
  haveNoMarkup_iff.mp h (key, v) (mem_of_get? hv)

theorem MarkupFree.getD {m : Members} (h : m.MarkupFree) {default : Value} (hd : default.isMarkupFree = true)
    (key : String) : (m.getD key default).isMarkupFree = true := by
  unfold Members.getD
  cases hv : m.get? key with
  | none => exact hd
  | some v => exact (h.of_get? hv).2

/-- What is held as props is an object, if anything is. -/
theorem MarkupFree.props {m : Members} (h : m.MarkupFree) :
    ∃ props : Members, (m.get "props").orElse (.object []) = .object props ∧ props.MarkupFree := by
  unfold Members.get
  cases hv : m.get? "props" with
  | none => exact ⟨[], rfl, rfl⟩
  | some v =>
    obtain ⟨hhold, hfree⟩ := h.of_get? hv
    cases v with
    | object props =>
      cases props with
      | nil => exact ⟨[], rfl, rfl⟩
      | cons e rest => exact ⟨e :: rest, rfl, hfree⟩
    | _ => simp [mayHold, members?] at hhold

theorem MarkupFree.set {m : Members} (h : m.MarkupFree) {key : String} {v : Value} (hk : mayHold key v = true)
    (hv : v.isMarkupFree = true) : (m.set key v).MarkupFree := by
  induction m with
  | nil => exact haveNoMarkup_iff.mpr (by simp [Members.set, hk, hv])
  | cons entry rest ih =>
    obtain ⟨old, w⟩ := entry
    obtain ⟨hentry, hrest⟩ := Bool.and_eq_true_iff.mp h
    have := ih hrest
    unfold Members.set
    split
    · rename_i heq
      exact Bool.and_eq_true_iff.mpr ⟨Bool.and_eq_true_iff.mpr ⟨by rwa [eq_of_beq heq], hv⟩, hrest⟩
    · exact Bool.and_eq_true_iff.mpr ⟨hentry, this⟩

theorem MarkupFree.update {base later : Members} (hb : base.MarkupFree) (hl : later.MarkupFree) :
    (base.update later).MarkupFree := by
  induction later generalizing base with
  | nil => exact hb
  | cons entry rest ih =>
    obtain ⟨hentry, hrest⟩ := Bool.and_eq_true_iff.mp hl
    obtain ⟨hk, hv⟩ := Bool.and_eq_true_iff.mp hentry
    exact ih (hb.set hk hv) hrest

theorem MarkupFree.ofEntries {m : Members} (h : m.MarkupFree) : (ofEntries m).MarkupFree :=
  @MarkupFree.update [] _ rfl h

end Members

namespace Value

mutual

/-- Interpolation writes texts into texts: what gave no markup gives none. -/
theorem isMarkupFree_interpolate (context : Value) :
    ∀ v : Value, v.isMarkupFree = true → (interpolate context v).isMarkupFree = true
  | .null, _ => rfl
  | .bool _, _ => rfl
  | .int _, _ => rfl
  | .float _, _ => rfl
  | .text _, _ => rfl
  | .list items, h => areMarkupFree_interpolate context items h
  | .object members, h => haveNoMarkup_interpolate context members h

theorem areMarkupFree_interpolate (context : Value) :
    ∀ items : List Value, areMarkupFree items = true → areMarkupFree (interpolateItems context items) = true
  | [], _ => rfl
  | v :: rest, h => by
    obtain ⟨hv, hrest⟩ := Bool.and_eq_true_iff.mp h
    exact Bool.and_eq_true_iff.mpr
      ⟨isMarkupFree_interpolate context v hv, areMarkupFree_interpolate context rest hrest⟩

theorem haveNoMarkup_interpolate (context : Value) :
    ∀ m : List (String × Value), haveNoMarkup m = true → haveNoMarkup (interpolateMembers context m) = true
  | [], _ => rfl
  | (key, v) :: rest, h => by
    obtain ⟨hentry, hrest⟩ := Bool.and_eq_true_iff.mp h
    obtain ⟨hk, hv⟩ := Bool.and_eq_true_iff.mp hentry
    have hk' : mayHold key (interpolate context v) = true := by
      cases v <;> exact hk
    exact Bool.and_eq_true_iff.mpr ⟨Bool.and_eq_true_iff.mpr ⟨hk', isMarkupFree_interpolate context v hv⟩,
      haveNoMarkup_interpolate context rest hrest⟩

end

end Value

/-! ### What is handed to components -/

theorem Members.MarkupFree.interpolate {m : Members} (h : m.MarkupFree) (context : Value) :
    (Members.interpolate context m).MarkupFree :=
  Value.haveNoMarkup_interpolate context m h

/-- A schema declares no markup: what it puts into a bag by default gives none. -/
def Schema.isMarkupFree (s : Schema) : Bool :=
  (s.fields.all fun f => f.default.isMarkupFree && (!markupKeys.contains f.name || !f.default.truthy)) &&
    (s.children.getD []).all fun slot => Value.haveNoMarkup slot.defaults

theorem Bundled.isMarkupFree_schema (b : Bundled) : b.schema.isMarkupFree = true := by
  cases b <;> decide

theorem Bundled.isMarkupFree_schemaOf (name : String) : (schemaOf name).isMarkupFree = true := by
  unfold schemaOf
  split
  · exact isMarkupFree_schema _
  · rfl

namespace Schema
variable {s : Schema}

theorem isMarkupFree_slot (h : s.isMarkupFree = true) {index : Int} {slot : Slot} (hs : s.slot? index = some slot) :
    slot.defaults.MarkupFree :=
  List.all_eq_true.mp (Bool.and_eq_true_iff.mp h).2 slot (mem_of_slot? hs)

theorem isMarkupFree_field (h : s.isMarkupFree = true) {key : String} {f : Field} (hf : s.field? key = some f) :
    f.default.isMarkupFree = true ∧ (key ∈ markupKeys → f.default.truthy = false) := by
  have hall := List.all_eq_true.mp (Bool.and_eq_true_iff.mp h).1 f (List.mem_of_find?_eq_some hf)
  have hname : f.name = key := by simpa using List.find?_some hf
  subst hname
  obtain ⟨hfree, hfalse⟩ := Bool.and_eq_true_iff.mp hall
  exact ⟨hfree, fun hkey => by simpa [hkey] using hfalse⟩

theorem markupFree_place (h : s.isMarkupFree = true) (index : Int) {props : Members} (hp : props.MarkupFree) :
    (s.place index props).MarkupFree := by
  unfold place
  cases hslot : s.slot? index with
  | none => exact hp
  | some slot => exact (isMarkupFree_slot h hslot).update hp

end Schema

theorem Composition.markupFree_childProps {parent : Schema} (h : parent.isMarkupFree = true) (index : Nat)
    {props : Members} (hp : props.MarkupFree) : (childProps parent index props).MarkupFree :=
  (Schema.markupFree_place h index hp).set rfl rfl

theorem Invocation.markupFree_props {v : Value} (h : v.isMarkupFree = true) {node : Invocation}
    (hn : ofValue v = .ok node) : node.props.MarkupFree := by
  cases v with
  | object m =>
    obtain ⟨props, hprops, hfree⟩ := Members.MarkupFree.props (m := m) h
    rw [ofValue_object hprops] at hn
    cases hn
    exact hfree.ofEntries
  | _ => cases hn

/-- A bag whose values give no markup, and in which what is taken for markup is not there. -/
structure Members.Harmless (props : Members) : Prop where
  values : ∀ key, (props.get key).isMarkupFree = true
  absent : ∀ key ∈ markupKeys, (props.get key).truthy = false

/-- The defaults of a schema keep a bag harmless. -/
theorem Schema.harmless_fill {s : Schema} (h : s.isMarkupFree = true) {props : Members} (hp : props.MarkupFree) :
    (s.fill props).Harmless where
  values key := by
    rw [Members.get, get?_fill]
    cases hget : props.get? key with
    | some v => exact (hp.of_get? hget).2
    | none =>
      cases hf : s.field? key with
      | some f => exact (isMarkupFree_field h hf).1
      | none => rfl
  absent key hkey := by
    rw [Members.get, get?_fill]
    -- Such a key is not among the props, and what a schema declares for it is false.
    cases hget : props.get? key with
    | some v =>
      have hhold := (hp.of_get? hget).1
      simp [mayHold, hkey] at hhold
    | none =>
      cases hf : s.field? key with
      | some f => exact (isMarkupFree_field h hf).2 hkey
      | none => rfl

end DesignKit
