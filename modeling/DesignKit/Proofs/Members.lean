import DesignKit.Props

/-! # Members under a key

What the operations on prop bags put under a key. Writing replaces, the last writing of a key counts, and a
default is used only where nothing was written before. -/

namespace DesignKit

theorem mem_of_lookup {α β : Type} [BEq α] [LawfulBEq α] {l : List (α × β)} {k : α} {b : β}
    (h : l.lookup k = some b) : (k, b) ∈ l := by
  obtain ⟨before, after, rfl, -⟩ := List.lookup_eq_some_iff.mp h
  exact List.mem_append_right _ List.mem_cons_self

theorem lookup_filter_ne {α β : Type} [BEq α] [LawfulBEq α] (l : List (α × β)) {k key : α} (h : k ≠ key) :
    (l.filter (·.1 != key)).lookup k = l.lookup k := by
  induction l with
  | nil => rfl
  | cons entry rest ih =>
    obtain ⟨first, b⟩ := entry
    by_cases hfirst : first = key
    · have hk : (k == first) = false := by
        rw [hfirst]
        exact beq_false_of_ne h
      rw [List.filter_cons_of_neg (by simpa using hfirst), List.lookup_cons, hk, ih]
    · rw [List.filter_cons_of_pos (by simpa using hfirst), List.lookup_cons, List.lookup_cons, ih]

theorem nodup_eraseDups {α : Type} [BEq α] [LawfulBEq α] : ∀ l : List α, l.eraseDups.Nodup
  | [] => by simp
  | a :: rest => by
    rw [List.eraseDups_cons, List.nodup_cons]
    exact ⟨by simp, nodup_eraseDups _⟩
termination_by l => l.length
decreasing_by exact Nat.lt_succ_of_le (List.length_filter_le _ _)

theorem Value.members?_eq_some {v : Value} {m : Members} : v.members? = some m ↔ v = .object m := by
  cases v <;> simp [members?]

namespace Members

@[simp] theorem get?_nil (k : String) : get? [] k = none := rfl

theorem get?_cons (key : String) (v : Value) (m : Members) (k : String) :
    get? ((key, v) :: m) k = if k = key then some v else m.get? k := by
  by_cases h : k = key
  · simp [get?, h]
  · have hne : (k == key) = false := by simpa using h
    simp only [get?, List.lookup_cons, hne, if_neg h]

theorem get?_append (m n : Members) (k : String) : get? (m ++ n) k = (m.get? k).or (n.get? k) :=
  List.lookup_append

theorem mem_of_get? {m : Members} {k : String} {v : Value} (h : m.get? k = some v) : (k, v) ∈ m :=
  mem_of_lookup h

theorem get?_eq_some_iff {m : Members} (hkeys : m.keys.Nodup) {k : String} {v : Value} :
    m.get? k = some v ↔ (k, v) ∈ m := by
  constructor
  · exact mem_of_get?
  · intro hmem
    induction m with
    | nil => cases hmem
    | cons entry rest ih =>
      obtain ⟨hnot, hrest⟩ := List.nodup_cons.mp hkeys
      rcases List.mem_cons.mp hmem with rfl | hmem
      · rw [get?_cons, if_pos rfl]
      · have hne : k ≠ entry.1 := by
          rintro rfl
          exact hnot (List.mem_map.mpr ⟨_, hmem, rfl⟩)
        rw [get?_cons, if_neg hne]
        exact ih hrest hmem

theorem get?_eq_none {m : Members} {key : String} (h : key ∉ m.keys) : m.get? key = none := by
  cases hv : m.get? key with
  | none => rfl
  | some v => exact absurd (List.mem_map_of_mem (mem_of_get? hv)) h

theorem has_eq_true {m : Members} {key : String} : m.has key = true ↔ key ∈ m.keys := by
  constructor
  · intro h
    obtain ⟨v, hv⟩ := Option.isSome_iff_exists.mp h
    exact List.mem_map_of_mem (mem_of_get? hv)
  · intro h
    obtain ⟨entry, hentry, hkey⟩ := List.mem_map.mp h
    exact List.lookup_isSome_iff.mpr ⟨entry, hentry, by simpa using hkey.symm⟩

theorem get_cons_ne {key k : String} (h : k ≠ key) (v : Value) (m : Members) :
    Members.get ((key, v) :: m) k = m.get k := by
  rw [get, get, get?_cons, if_neg h]

/-- The order of members does not count for a look-up. -/
theorem get?_perm {m n : Members} (hkeys : m.keys.Nodup) (h : m.Perm n) (k : String) : m.get? k = n.get? k := by
  have hkeys' : n.keys.Nodup := (h.map _).nodup_iff.mp hkeys
  refine Option.ext fun v => ?_
  rw [get?_eq_some_iff hkeys, get?_eq_some_iff hkeys', h.mem_iff]

/-! ### Writing -/

theorem get?_set (m : Members) (key : String) (v : Value) (k : String) :
    (m.set key v).get? k = if k = key then some v else m.get? k := by
  induction m with
  | nil => simp [set, get?_cons]
  | cons entry rest ih =>
    obtain ⟨old, w⟩ := entry
    by_cases hold : old = key
    · by_cases hk : k = key <;> simp [set, get?_cons, hold, hk]
    · by_cases hk : k = old
      · have : k ≠ key := fun h => hold (hk.symm.trans h)
        simp [set, get?_cons, hold, hk]
      · simp [set, get?_cons, hold, hk, ih]

@[simp] theorem get?_set_self (m : Members) (key : String) (v : Value) : (m.set key v).get? key = some v := by
  rw [get?_set, if_pos rfl]

theorem get?_set_ne (m : Members) {key k : String} (v : Value) (h : k ≠ key) : (m.set key v).get? k = m.get? k := by
  rw [get?_set, if_neg h]

theorem update_cons (base : Members) (key : String) (v : Value) (later : Members) :
    base.update ((key, v) :: later) = (base.set key v).update later := rfl

/-- Of several writings of a key the last one counts. -/
theorem get?_update (base later : Members) (k : String) :
    (base.update later).get? k = ((ofEntries later).get? k).or (base.get? k) := by
  induction later generalizing base with
  | nil => rfl
  | cons entry rest ih =>
    obtain ⟨key, v⟩ := entry
    have hbase : (base.set key v).get? k = (get? [(key, v)] k).or (base.get? k) := by
      rw [get?_set, get?_cons]
      by_cases hk : k = key <;> simp [hk]
    calc (base.update ((key, v) :: rest)).get? k
        = ((ofEntries rest).get? k).or ((base.set key v).get? k) := ih _
      _ = (((ofEntries rest).get? k).or (get? [(key, v)] k)).or (base.get? k) := by rw [hbase, Option.or_assoc]
      _ = ((ofEntries ((key, v) :: rest)).get? k).or (base.get? k) := by rw [← ih]; rfl

/-- Of entries written one after the other, the last of a key counts. -/
theorem get?_ofEntries (entries : List (String × Value)) (k : String) :
    (ofEntries entries).get? k = entries.reverse.lookup k := by
  induction entries with
  | nil => rfl
  | cons entry rest ih =>
    have hfirst : (ofEntries (entry :: rest)).get? k = ((ofEntries rest).get? k).or (get? [entry] k) :=
      get?_update [entry] rest k
    rw [hfirst, ih, List.reverse_cons, List.lookup_append]
    rfl

theorem keys_set (m : Members) (key : String) (v : Value) :
    (m.set key v).keys = if key ∈ m.keys then m.keys else m.keys ++ [key] := by
  induction m with
  | nil => rfl
  | cons entry rest ih =>
    obtain ⟨old, w⟩ := entry
    by_cases hold : old = key
    · simp [set, keys, hold]
    · have hne : key ≠ old := fun h => hold h.symm
      simp only [keys] at ih
      by_cases hmem : key ∈ rest.map (·.1) <;> simp [set, keys, hold, hne, ih, hmem]

theorem nodup_keys_set {m : Members} (h : m.keys.Nodup) (key : String) (v : Value) : (m.set key v).keys.Nodup := by
  rw [keys_set]
  split
  · exact h
  · rename_i hmem
    refine List.nodup_append.mpr ⟨h, by simp, fun k hk k' hk' heq => hmem ?_⟩
    rw [← List.mem_singleton.mp hk', ← heq]
    exact hk

theorem nodup_keys_update {base : Members} (h : base.keys.Nodup) (later : Members) : (base.update later).keys.Nodup := by
  induction later generalizing base with
  | nil => exact h
  | cons entry rest ih => exact ih (nodup_keys_set h _ _)

/-- Entries written one after the other are an object: no key occurs twice. -/
theorem nodup_keys_ofEntries (entries : List (String × Value)) : (ofEntries entries).keys.Nodup :=
  @nodup_keys_update [] List.nodup_nil entries

theorem mem_set {m : Members} {key : String} {v : Value} {e : String × Value} (h : e ∈ m.set key v) :
    e ∈ m ∨ e.2 = v := by
  induction m with
  | nil =>
    rw [List.mem_singleton.mp h]
    exact .inr rfl
  | cons entry rest ih =>
    obtain ⟨old, w⟩ := entry
    unfold set at h
    split at h
    · rcases List.mem_cons.mp h with rfl | h
      · exact .inr rfl
      · exact .inl (List.mem_cons_of_mem _ h)
    · rcases List.mem_cons.mp h with rfl | h
      · exact .inl List.mem_cons_self
      · exact (ih h).imp_left (List.mem_cons_of_mem _)

theorem mem_update {base later : Members} {e : String × Value} (h : e ∈ base.update later) :
    e ∈ base ∨ ∃ e' ∈ later, e.2 = e'.2 := by
  induction later generalizing base with
  | nil => exact .inl h
  | cons entry rest ih =>
    rcases ih h with h | ⟨e', he', heq⟩
    · rcases mem_set h with h | heq
      · exact .inl h
      · exact .inr ⟨entry, List.mem_cons_self, heq⟩
    · exact .inr ⟨e', List.mem_cons_of_mem _ he', heq⟩

theorem set_of_not_mem {m : Members} {key : String} (h : key ∉ m.keys) (v : Value) : m.set key v = m ++ [(key, v)] := by
  induction m with
  | nil => rfl
  | cons entry rest ih =>
    obtain ⟨old, w⟩ := entry
    simp only [keys, List.map_cons, List.mem_cons, not_or] at h
    have hne : old ≠ key := fun hold => h.1 hold.symm
    simp [set, hne, ih h.2]

theorem update_of_disjoint {base later : Members} (h : (base ++ later).keys.Nodup) : base.update later = base ++ later := by
  induction later generalizing base with
  | nil => simp [update]
  | cons entry rest ih =>
    obtain ⟨key, v⟩ := entry
    have hkey : key ∉ base.keys := by
      intro hmem
      simp only [keys, List.map_append, List.map_cons, List.nodup_append] at h
      exact h.2.2 key hmem key List.mem_cons_self rfl
    rw [update_cons, set_of_not_mem hkey, ih (by simpa using h)]
    simp

/-- An object is what results from writing its members. -/
theorem ofEntries_of_nodup {m : Members} (h : m.keys.Nodup) : ofEntries m = m :=
  @update_of_disjoint [] m h

end Members

namespace Schema

theorem fields_fill (fields : List Field) (props : Members) (k : String) :
    (fields.foldl (fun m f => if m.has f.name then m else m ++ [(f.name, f.default)]) props).get? k =
      (props.get? k).or ((fields.find? (·.name == k)).map (·.default)) := by
  induction fields generalizing props with
  | nil => simp
  | cons f rest ih =>
    rw [List.foldl_cons, ih, List.find?_cons]
    by_cases hname : f.name = k
    · subst hname
      cases hget : props.get? f.name with
      | some v => simp [Members.has, hget]
      | none => simp [Members.has, hget, Members.get?_append, Members.get?_cons]
    · have hne : (f.name == k) = false := by simpa using hname
      have hkeep : (if props.has f.name then props else props ++ [(f.name, f.default)]).get? k = props.get? k := by
        split
        · rfl
        · rw [Members.get?_append, Members.get?_cons, if_neg (fun h => hname h.symm)]
          simp
      rw [hkeep, hne]

/-- A filled bag has the given props and, where they lack a key, the first default that is declared for it. -/
theorem get?_fill (s : Schema) (props : Members) (k : String) :
    (s.fill props).get? k = (props.get? k).or ((s.field? k).map (·.default)) :=
  fields_fill s.fields props k

theorem mem_of_slot? {s : Schema} {index : Int} {slot : Slot} (h : s.slot? index = some slot) :
    slot ∈ s.children.getD [] := by
  unfold slot? at h
  split at h
  · cases h
  · obtain ⟨slots, hslots, hmem⟩ := Option.bind_eq_some_iff.mp h
    rw [hslots]
    exact List.mem_of_getElem? hmem

/-- Props under a slot: what they lack comes from the slot, if the parent has one at the index. -/
theorem get?_place (s : Schema) (index : Int) {props : Members} (h : props.keys.Nodup) (k : String) :
    (s.place index props).get? k = (props.get? k).or ((s.slot? index).bind (·.defaults.get? k)) := by
  unfold place
  cases s.slot? index with
  | none => simp
  | some slot => rw [Members.get?_update, Members.ofEntries_of_nodup h, Option.bind_some]

/-- Each slot of a schema names a prop once. -/
def hasProperSlots (s : Schema) : Bool :=
  (s.children.getD []).all fun slot => decide slot.defaults.keys.Nodup

theorem nodup_keys_slot {s : Schema} (hs : s.hasProperSlots = true) {index : Int} {slot : Slot}
    (h : s.slot? index = some slot) : slot.defaults.keys.Nodup :=
  of_decide_eq_true (List.all_eq_true.mp hs slot (mem_of_slot? h))

theorem nodup_keys_place {s : Schema} (hs : s.hasProperSlots = true) (index : Int) {props : Members}
    (h : props.keys.Nodup) : (s.place index props).keys.Nodup := by
  unfold place
  cases hslot : s.slot? index with
  | none => exact h
  | some slot => exact Members.nodup_keys_update (nodup_keys_slot hs hslot) props

end Schema
end DesignKit
