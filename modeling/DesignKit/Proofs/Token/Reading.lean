import DesignKit.Proofs.Members
import DesignKit.Proofs.Token.Strain

/-! # How a document is read

A compilation does not see all of a document. Some of its objects are records, of which it looks up certain
members by name; some are looked up under names that come from elsewhere; some are walked over in order; and
what these lead to is taken as a whole. Such a reading says which edits of a value stay unseen: the members
of an object that is looked up by name may change their order, and a record may have more members.

Some entries that are walked over are idle: they are null, or they are switched off where a switch is looked at.

Two values are the same to a reading when it finds the same under every name and in every place that it looks
at, the idle entries of the first passed over. An edit leaves a value the same, and what is computed along a
reading is computed from what it finds. -/

namespace DesignKit

/-- How a value is read. -/
inductive Reading where
  /-- As it is. -/
  | whole
  /-- A record: the given members are looked up by name. -/
  | record (fields : List (String × Reading))
  /-- Entries that are looked up under names from elsewhere. -/
  | named (entry : Reading)
  /-- Entries or items that are walked over in order. -/
  | ordered (entry : Reading)

namespace Reading

/-- A change to a value that a reading does not see. -/
inductive Edit : Reading → Value → Value → Prop
  /-- The members of a record change their order. -/
  | reorder {fields : List (String × Reading)} {m n : Members} (hkeys : m.keys.Nodup) (h : m.Perm n) :
    Edit (.record fields) (.object m) (.object n)
  /-- A record gets a member that is not looked up. -/
  | extend {fields : List (String × Reading)} {before after : Members} {key : String} {v : Value}
    (hkey : key ∉ fields.map (·.1)) :
    Edit (.record fields) (.object (before ++ after)) (.object (before ++ (key, v) :: after))
  /-- A member that is looked up is changed. -/
  | member {fields : List (String × Reading)} {before after : Members} {key : String} {r : Reading} {v w : Value}
    (hkey : fields.lookup key = some r) (h : Edit r v w) :
    Edit (.record fields) (.object (before ++ (key, v) :: after)) (.object (before ++ (key, w) :: after))
  /-- Entries that are looked up change their order. -/
  | reorderNamed {r : Reading} {m n : Members} (hkeys : m.keys.Nodup) (h : m.Perm n) :
    Edit (.named r) (.object m) (.object n)
  | namedEntry {r : Reading} {before after : Members} {key : String} {v w : Value} (h : Edit r v w) :
    Edit (.named r) (.object (before ++ (key, v) :: after)) (.object (before ++ (key, w) :: after))
  | entry {r : Reading} {before after : Members} {key : String} {v w : Value} (h : Edit r v w) :
    Edit (.ordered r) (.object (before ++ (key, v) :: after)) (.object (before ++ (key, w) :: after))
  | item {r : Reading} {before after : List Value} {v w : Value} (h : Edit r v w) :
    Edit (.ordered r) (.list (before ++ v :: after)) (.list (before ++ w :: after))

/-- An entry that counts for nothing where entries are walked over: null, or an object that is switched off by
`false` itself, if the reading of an entry looks at its switch. -/
inductive Idle : Reading → Value → Prop
  | null (r : Reading) : Idle r .null
  | off {fields : List (String × Reading)} {m : Members} (hswitch : fields.lookup "enabled" = some .whole)
    (hoff : m.get "enabled" = .bool false) : Idle (.record fields) (.object m)

/-- A reading finds the same in two values, but for idle entries of the first. -/
inductive Same : Reading → Value → Value → Prop
  | refl (r : Reading) (v : Value) : Same r v v
  | record {fields : List (String × Reading)} {m n : Members}
    (h : ∀ key r, fields.lookup key = some r → Same r (m.get key) (n.get key)) :
    Same (.record fields) (.object m) (.object n)
  | named {r : Reading} {m n : Members} (h : ∀ key, Same r (m.get key) (n.get key)) :
    Same (.named r) (.object m) (.object n)
  | entry {r : Reading} {key : String} {v w : Value} {m n : Members} (hv : Same r v w)
    (h : Same (.ordered r) (.object m) (.object n)) :
    Same (.ordered r) (.object ((key, v) :: m)) (.object ((key, w) :: n))
  | item {r : Reading} {v w : Value} {vs ws : List Value} (hv : Same r v w) (h : Same (.ordered r) (.list vs) (.list ws)) :
    Same (.ordered r) (.list (v :: vs)) (.list (w :: ws))
  | skipEntry {r : Reading} {key : String} {v : Value} {m n : Members} (hidle : Idle r v)
    (h : Same (.ordered r) (.object m) (.object n)) : Same (.ordered r) (.object ((key, v) :: m)) (.object n)
  | skipItem {r : Reading} {v : Value} {vs ws : List Value} (hidle : Idle r v)
    (h : Same (.ordered r) (.list vs) (.list ws)) : Same (.ordered r) (.list (v :: vs)) (.list ws)

namespace Same

theorem of_eq {r : Reading} {v w : Value} (h : v = w) : Same r v w :=
  h ▸ .refl r v

theorem eq_of_whole {v w : Value} (h : Same .whole v w) : v = w := by
  cases h
  rfl

theorem field {fields : List (String × Reading)} {m n : Members} (h : Same (.record fields) (.object m) (.object n))
    {key : String} {r : Reading} (hkey : fields.lookup key = some r) : Same r (m.get key) (n.get key) := by
  cases h with
  | refl => exact .refl r _
  | record h => exact h key r hkey

/-- What a record holds as a whole is equal. -/
theorem get_eq {fields : List (String × Reading)} {m n : Members} (h : Same (.record fields) (.object m) (.object n))
    {key : String} (hkey : fields.lookup key = some .whole) : m.get key = n.get key :=
  (h.field hkey).eq_of_whole

theorem under {r : Reading} {m n : Members} (h : Same (.named r) (.object m) (.object n)) (key : String) :
    Same r (m.get key) (n.get key) := by
  cases h with
  | refl => exact .refl r _
  | named h => exact h key

/-- The values of two records are one, or both are objects in which the same is found. -/
theorem record_cases {fields : List (String × Reading)} {v w : Value} (h : Same (.record fields) v w) :
    v = w ∨ ∃ m n : Members, v = .object m ∧ w = .object n ∧ Same (.record fields) (.object m) (.object n) := by
  cases h with
  | refl => exact Or.inl rfl
  | record h => exact Or.inr ⟨_, _, rfl, rfl, .record h⟩

/-- Objects that are walked over have the same entries in the same order, up to what is found in these. -/
theorem filterMap_eq {β : Type} {r : Reading} {f : String → Value → Option β}
    (hf : ∀ key {v w}, Same r v w → f key v = f key w) (hidle : ∀ key {v}, Idle r v → f key v = none) {m n : Members}
    (h : Same (.ordered r) (.object m) (.object n)) :
    m.filterMap (fun e => f e.1 e.2) = n.filterMap fun e => f e.1 e.2 := by
  induction m generalizing n with
  | nil =>
    cases h
    rfl
  | cons e rest ih =>
    cases h with
    | refl => rfl
    | entry hv h => rw [List.filterMap_cons, List.filterMap_cons, hf _ hv, ih h]
    | skipEntry hv h =>
      rw [List.filterMap_cons, hidle _ hv]
      exact ih h

theorem ordered_values {r : Reading} {m n : Members} (h : Same (.ordered r) (.object m) (.object n)) :
    Same (.ordered r) (.list (m.map (·.2))) (.list (n.map (·.2))) := by
  induction m generalizing n with
  | nil =>
    cases h
    exact .refl _ _
  | cons e rest ih =>
    cases h with
    | refl => exact .refl _ _
    | entry hv h => exact .item hv (ih h)
    | skipEntry hidle h => exact .skipItem hidle (ih h)

/-- What is done with an object under a key is the same when it is the same on what is found there. -/
theorem section?_bind {α : Type} {r : Reading} {m n : Members} {key : String} (h : Same r (m.get key) (n.get key))
    (place : String) {k k' : Option Members → Except Fault α} (hnone : k none = k' none)
    (hsome : ∀ a b : Members, Same r (.object a) (.object b) → k (some a) = k' (some b)) :
    TokenDocument.section? m key place >>= k = TokenDocument.section? n key place >>= k' := by
  unfold TokenDocument.section?
  generalize m.get key = v at h
  generalize n.get key = w at h
  cases h with
  | refl =>
    cases v with
    | null => exact hnone
    | object a => exact hsome a a (.refl r _)
    | _ => rfl
  | record h => exact hsome _ _ (.record h)
  | named h => exact hsome _ _ (.named h)
  | entry hv h => exact hsome _ _ (.entry hv h)
  | skipEntry hidle h => exact hsome _ _ (.skipEntry hidle h)
  | item => rfl
  | skipItem => rfl

end Same

/-! ### Edits are not seen -/

theorem get?_changed {r : Reading} {before after : Members} {key : String} {v w : Value} (h : Same r v w) {s : Reading}
    {k : String} (hk : k = key → s = r) :
    Same s (Members.get (before ++ (key, v) :: after) k) (Members.get (before ++ (key, w) :: after) k) := by
  simp only [Members.get, Members.get?_append, Members.get?_cons]
  cases before.get? k with
  | some u => exact .refl _ _
  | none =>
    by_cases heq : k = key
    · rw [if_pos heq, if_pos heq, hk heq]
      exact h
    · rw [if_neg heq, if_neg heq]
      exact .refl _ _

theorem Same.entry_within {r : Reading} {before after : Members} {key : String} {v w : Value} (h : Same r v w) :
    Same (.ordered r) (.object (before ++ (key, v) :: after)) (.object (before ++ (key, w) :: after)) := by
  induction before with
  | nil => exact .entry h (.refl _ _)
  | cons e rest ih => exact .entry (.refl _ _) ih

theorem Same.item_within {r : Reading} {before after : List Value} {v w : Value} (h : Same r v w) :
    Same (.ordered r) (.list (before ++ v :: after)) (.list (before ++ w :: after)) := by
  induction before with
  | nil => exact .item h (.refl _ _)
  | cons e rest ih => exact .item (.refl _ _) ih

theorem Edit.same {r : Reading} {v w : Value} (h : Edit r v w) : Same r v w := by
  induction h with
  | reorder hkeys h =>
    refine .record fun key r _ => .of_eq ?_
    rw [Members.get, Members.get, Members.get?_perm hkeys h]
  | @extend fields before after key v hkey =>
    refine .record fun k r hk => .of_eq ?_
    have hne : k ≠ key := by
      rintro rfl
      exact hkey (List.mem_map_of_mem (mem_of_lookup hk))
    rw [Members.get, Members.get, Members.get?_append, Members.get?_append, Members.get?_cons, if_neg hne]
  | member hkey _ ih =>
    refine .record fun k s hk => get?_changed ih fun heq => ?_
    rw [heq, hkey] at hk
    exact (Option.some.inj hk).symm
  | reorderNamed hkeys h =>
    refine .named fun key => .of_eq ?_
    rw [Members.get, Members.get, Members.get?_perm hkeys h]
  | namedEntry _ ih => exact .named fun k => get?_changed ih fun _ => rfl
  | entry _ ih => exact ih.entry_within
  | item _ ih => exact ih.item_within

end Reading
end DesignKit
