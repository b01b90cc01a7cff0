import DesignKit.Proofs.Members
import DesignKit.Proofs.Render
import DesignKit.Scale
import Mathlib.Data.List.Nodup

/-! # The value of a position

The values of the positions of a scale are kept under their names. Where a name occurs once, each position has
the value that is its own; where it occurs more often the last position decides. A position that is overridden
has the overriding value, and its power is not computed. -/

namespace DesignKit

/-- The overrides hold, under a name, an object that is switched on and has a value. -/
def Overridden (overrides : Members) (name : String) (v : Value) : Prop :=
  ∃ entry : Members, overrides.get name = .object entry ∧ (entry.get "enabled").truthy = true ∧ entry.get "value" = v ∧
    v.isNull = false

theorem override?_eq_some {overrides : Members} {name : String} {v : Value} :
    override? overrides name = some v ↔ Overridden overrides name v := by
  unfold override? Overridden
  constructor
  · intro h
    split at h
    case h_1 entry hentry =>
      split at h
      case isTrue hon =>
        rw [Bool.and_eq_true, Bool.not_eq_true'] at hon
        cases h
        exact ⟨entry, Value.members?_eq_some.mp hentry, hon.1, rfl, hon.2⟩
      case isFalse => cases h
    case h_2 => cases h
  · rintro ⟨entry, hentry, hon, rfl, hvalue⟩
    simp only [hentry, Value.members?, hon, hvalue, Bool.not_false, Bool.and_self, if_true]

namespace Scale
variable {s : Scale} {overrides overrides' values values' : Members} {digits : Int} {positions : List ScalePosition}

/-- The value of a position: the override's as it is, or the size on the scale. -/
def valueAt (s : Scale) (overrides : Members) (digits : Int) (p : ScalePosition) : Except Fault Value :=
  match override? overrides p.name with
  | some v => .ok v
  | none => .float <$> s.sizeAt p.position digits

theorem valueAt_of_override {p : ScalePosition} {v : Value} (h : override? overrides p.name = some v) :
    s.valueAt overrides digits p = .ok v := by
  rw [valueAt, h]

theorem sizes_eq (s : Scale) (overrides : Members) (digits : Int) (positions : List ScalePosition) :
    s.sizes overrides digits positions =
      Members.ofEntries <$> positions.mapM fun p => (p.name, ·) <$> s.valueAt overrides digits p := by
  have hentry : (fun p : ScalePosition => (p.name, ·) <$> s.valueAt overrides digits p) = fun p => do
      match override? overrides p.name with
      | some v => return (p.name, v)
      | none => return (p.name, Value.float (← s.sizeAt p.position digits)) := by
    funext p
    unfold valueAt
    cases override? overrides p.name with
    | some v => rfl
    | none => cases s.sizeAt p.position digits <;> rfl
  rw [hentry, map_eq_pure_bind]
  rfl

/-- Values under the names of the items that they belong to: the first item of a name decides. -/
theorem lookup_named {α : Type} {key : α → String} {value : α → Except Fault Value} {l : List α}
    {entries : List (String × Value)} (h : (l.map fun a => (key a, ·) <$> value a) = entries.map .ok) (name : String) :
    entries.lookup name = (l.find? (key · == name)).bind fun a => (value a).toOption := by
  induction l generalizing entries with
  | nil =>
    rw [List.map_eq_nil_iff.mp h.symm]
    rfl
  | cons a rest ih =>
    cases entries with
    | nil => cases h
    | cons entry others =>
      obtain ⟨hfirst, hrest⟩ := List.cons.inj h
      cases hv : value a with
      | error fault =>
        simp only [hv] at hfirst
        cases hfirst
      | ok v =>
        simp only [hv] at hfirst
        cases hfirst
        rw [List.lookup_cons, List.find?_cons, BEq.comm (a := name), ih hrest]
        cases key a == name with
        | true => simp only [Option.bind_some, hv, Except.toOption]
        | false => rfl

/-- Of several positions of a name the last one gives the value. -/
theorem get?_sizes (h : s.sizes overrides digits positions = .ok values) (name : String) :
    values.get? name =
      (positions.reverse.find? (·.name == name)).bind fun p => (s.valueAt overrides digits p).toOption := by
  rw [sizes_eq] at h
  cases hentries : positions.mapM fun p => (p.name, ·) <$> s.valueAt overrides digits p with
  | error fault =>
    rw [hentries] at h
    cases h
  | ok entries =>
    rw [hentries] at h
    cases h
    rw [Members.get?_ofEntries]
    refine lookup_named ?_ name
    rw [List.map_reverse, List.map_reverse, except_mapM_eq_ok.mp hentries]

theorem exists_valueAt (h : s.sizes overrides digits positions = .ok values) {p : ScalePosition} (hp : p ∈ positions) :
    ∃ v, s.valueAt overrides digits p = .ok v := by
  rw [sizes_eq] at h
  cases hentries : positions.mapM fun p => (p.name, ·) <$> s.valueAt overrides digits p with
  | error fault =>
    rw [hentries] at h
    cases h
  | ok entries =>
    have hmem := List.mem_map_of_mem hp (f := fun p => (p.name, ·) <$> s.valueAt overrides digits p)
    rw [except_mapM_eq_ok.mp hentries] at hmem
    obtain ⟨entry, -, hentry⟩ := List.mem_map.mp hmem
    cases hv : s.valueAt overrides digits p with
    | error fault =>
      rw [hv] at hentry
      cases hentry
    | ok v => exact ⟨v, rfl⟩

/-- The value under the name of a position is that of a position of this name. -/
theorem find?_of_mem {p : ScalePosition} (hp : p ∈ positions) :
    ∃ q ∈ positions, q.name = p.name ∧ positions.reverse.find? (·.name == p.name) = some q := by
  have hsome : (positions.reverse.find? (·.name == p.name)).isSome = true :=
    List.find?_isSome.mpr ⟨p, List.mem_reverse.mpr hp, beq_self_eq_true _⟩
  obtain ⟨q, hq⟩ := Option.isSome_iff_exists.mp hsome
  exact ⟨q, List.mem_reverse.mp (List.mem_of_find?_eq_some hq), by simpa using List.find?_some hq, hq⟩

/-- What is read back for a position is the value of the last position of its name. -/
theorem valueAt_last (h : s.sizes overrides digits positions = .ok values) {p : ScalePosition} (hp : p ∈ positions) :
    ∃ q ∈ positions, q.name = p.name ∧ positions.reverse.find? (·.name == p.name) = some q ∧
      s.valueAt overrides digits q = .ok (values.get p.name) := by
  obtain ⟨q, hqmem, hname, hq⟩ := find?_of_mem hp
  obtain ⟨v, hv⟩ := exists_valueAt h hqmem
  refine ⟨q, hqmem, hname, hq, ?_⟩
  rw [Members.get, get?_sizes h, hq, Option.bind_some, hv]
  rfl

theorem get_sizes_of_override (h : s.sizes overrides digits positions = .ok values) {p : ScalePosition}
    (hp : p ∈ positions) {v : Value} (hv : override? overrides p.name = some v) : values.get p.name = v := by
  obtain ⟨q, -, hname, -, hvalue⟩ := valueAt_last h hp
  rw [← hname] at hv
  rw [valueAt_of_override hv] at hvalue
  exact (Except.ok.inj hvalue).symm

/-- A name that is overridden alike has the same value. -/
theorem get_sizes_congr (h : s.sizes overrides digits positions = .ok values)
    (h' : s.sizes overrides' digits positions = .ok values') {name : String}
    (hname : override? overrides name = override? overrides' name) : values.get name = values'.get name := by
  rw [Members.get, Members.get, get?_sizes h, get?_sizes h']
  cases hq : positions.reverse.find? (·.name == name) with
  | none => rfl
  | some q =>
    have hq' : q.name = name := by simpa using List.find?_some hq
    have hvalue : s.valueAt overrides digits q = s.valueAt overrides' digits q := by
      rw [valueAt, valueAt, hq', hname]
    rw [Option.bind_some, Option.bind_some, hvalue]

/-- Where all positions are overridden the scale makes no difference. -/
theorem sizes_of_overridden (hall : ∀ p ∈ positions, (override? overrides p.name).isSome = true) (s s' : Scale) :
    s.sizes overrides digits positions = s'.sizes overrides digits positions := by
  rw [sizes_eq, sizes_eq]
  refine congrArg _ (except_mapM_congr fun p hp => ?_)
  obtain ⟨v, hv⟩ := Option.isSome_iff_exists.mp (hall p hp)
  rw [valueAt_of_override hv, valueAt_of_override hv]

/-- Positions with names of their own have values of their own. -/
theorem valueAt_eq_get_sizes (h : s.sizes overrides digits positions = .ok values)
    (hnames : (positions.map (·.name)).Nodup) {p : ScalePosition} (hp : p ∈ positions) :
    s.valueAt overrides digits p = .ok (values.get p.name) := by
  obtain ⟨q, hqmem, hname, -, hvalue⟩ := valueAt_last h hp
  rwa [List.inj_on_of_nodup_map hnames hqmem hp hname] at hvalue

end Scale
end DesignKit
