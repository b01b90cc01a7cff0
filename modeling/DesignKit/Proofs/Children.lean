import DesignKit.Component.Hero
import DesignKit.Proofs.Members
import DesignKit.Proofs.Render

/-! # Children

The rendering of a list of children is that of one child after the other, each at its own index. A child
that is an object with an object of props is always a node, and its props are those that it gives. -/

namespace DesignKit

theorem Value.orElse_object (m : Members) : (object m).orElse (.object []) = .object m := by
  cases m <;> rfl

/-- A value that is false has no items to go through. -/
theorem Value.items?_of_falsy {v : Value} (h : v.truthy = false) : v.items?.getD [] = [] := by
  cases v with
  | list items =>
    have hempty : items = [] := by simpa [truthy] using h
    rw [hempty]
    rfl
  | object members =>
    have hempty : members = [] := by simpa [truthy] using h
    rw [hempty]
    rfl
  | text s =>
    have hempty : s = "" := by simpa [truthy] using h
    rw [hempty]
    rfl
  | _ => rfl

theorem Helper.items_eq_ok {v : Value} {vs : List Value} : items v = .ok vs ↔ v.items? = some vs := by
  unfold items
  cases v.items? <;> simp

namespace Entries

/-- The members of an object as entries. -/
def ofMembers (m : Members) : Entries :=
  m.map fun (key, v) => (.text key, v)

theorem toMembers_ofMembers (m : Members) : (ofMembers m).toMembers = Members.ofEntries m := by
  have : (ofMembers m).map (fun e => (keyName e.1, e.2)) = m := by
    simp [ofMembers, Function.comp_def, keyName]
  exact congrArg Members.ofEntries this

theorem toMembers?_ofMembers (place : String) (m : Members) :
    (ofMembers m).toMembers? place = .ok (Members.ofEntries m) := by
  simp only [toMembers?]
  split
  · rw [toMembers_ofMembers]
  · rename_i h
    refine absurd ?_ h
    clear h
    induction m with
    | nil => rfl
    | cons entry rest ih => exact ih

theorem toMembers?_eq_ok {place : String} {entries : Entries} {m : Members} (h : entries.toMembers? place = .ok m) :
    m = entries.toMembers := by
  simp only [toMembers?] at h
  split at h
  · cases h
    rfl
  · cases h

theorem nodup_keys_toMembers (entries : Entries) : entries.toMembers.keys.Nodup :=
  Members.nodup_keys_ofEntries _

end Entries

theorem Members.ofValue_object (m : Members) : Members.ofValue (.object m) = .ok (Members.ofEntries m) :=
  congrArg Except.ok (Entries.toMembers_ofMembers m)

theorem Members.ofValue_eq_ok {v : Value} {m : Members} (h : Members.ofValue v = .ok m) :
    ∃ entries, Entries.ofValue v = .ok entries ∧ m = entries.toMembers := by
  unfold Members.ofValue at h
  cases hentries : Entries.ofValue v with
  | error fault =>
    rw [hentries] at h
    cases h
  | ok entries =>
    rw [hentries] at h
    cases h
    exact ⟨entries, rfl, rfl⟩

theorem Schema.placeValue_object (s : Schema) (index : Int) (props : Members) :
    s.placeValue index (.object props) = .ok (.object (s.place index props)) := by
  unfold placeValue place
  cases s.slot? index <;> rfl

/-- The bag that a hero makes of an object of props. -/
theorem Hero.childBag_object (parent : Schema) (index : Nat) {v : Value} {props : Members}
    (h : v.orElse (.object []) = .object props) :
    childBag parent index v =
      .ok ((Members.ofEntries (parent.place index props)).set Composition.indexKey (.int index)) := by
  unfold childBag
  rw [h, Schema.placeValue_object]
  show (Members.ofValue (.object (parent.place index props)) >>= fun m =>
    .ok (m.set Composition.indexKey (.int index))) = _
  rw [Members.ofValue_object]
  rfl

namespace Invocation

theorem ofValue_object {m props : Members} (h : (m.get "props").orElse (.object []) = .object props) :
    ofValue (.object m) = .ok ⟨((m.get "type").orElse (.text "")).print, Members.ofEntries props⟩ := by
  have hentries : Entries.ofValue (.object props) = .ok (Entries.ofMembers props) := rfl
  have hprops := Entries.toMembers?_ofMembers "props" props
  simp only [ofValue, Value.members?, h, hentries, bind, Except.bind, hprops]
  rfl

theorem print_type {m : Members} {type : String} (h : m.get? "type" = some (.text type)) :
    ((m.get "type").orElse (.text "")).print = type := by
  have hget : m.get "type" = .text type := by
    rw [Members.get, h]
    rfl
  rw [hget, Value.orElse]
  split
  · rfl
  · rename_i hfalse
    have hempty : type = "" := by simpa [Value.truthy] using hfalse
    rw [hempty]
    rfl

/-- A node is read from an object, whose props are read as entries. -/
theorem ofValue_eq_ok {v : Value} {node : Invocation} (h : ofValue v = .ok node) :
    ∃ (m : Members) (entries : Entries), v = .object m ∧
      Entries.ofValue ((m.get "props").orElse (.object [])) = .ok entries ∧
      node = ⟨((m.get "type").orElse (.text "")).print, entries.toMembers⟩ := by
  cases v with
  | object m =>
    simp only [ofValue, Value.members?] at h
    cases hentries : Entries.ofValue ((Members.get m "props").orElse (.object [])) with
    | error f =>
      rw [hentries] at h
      cases h
    | ok entries =>
      rw [hentries] at h
      refine ⟨m, entries, rfl, hentries, ?_⟩
      cases hprops : entries.toMembers? "props" with
      | error ps =>
        simp only [bind, Except.bind, hprops] at h
        cases h
      | ok props =>
        simp only [bind, Except.bind, hprops] at h
        cases h
        rw [Entries.toMembers?_eq_ok hprops]
  | _ => cases h

theorem nodup_keys_of_ofValue {v : Value} {node : Invocation} (h : ofValue v = .ok node) : node.props.keys.Nodup := by
  obtain ⟨m, entries, -, -, rfl⟩ := ofValue_eq_ok h
  exact Entries.nodup_keys_toMembers entries

end Invocation

namespace Composition
variable {c : Composition} {parent : Schema}

theorem admits_of_isRegistered {name : String} (h : c.isRegistered name = true) (index : Option Int) :
    c.admits (some (.text name)) index = pure true := by
  simp only [admits, h, if_pos]

/-- A child that is admitted has a text as its type, and the text is registered. -/
theorem admits_eq_true {type : Option Value} {index : Option Int} (h : (c.admits type index).result = .ok true) :
    ∃ name, type = some (.text name) ∧ c.isRegistered name = true := by
  rcases type with _ | v
  · cases hp : c.policy <;> simp only [admits, hp] at h <;> cases h
  · cases v with
    | text name =>
      by_cases hr : c.isRegistered name = true
      · exact ⟨name, rfl, hr⟩
      · cases hp : c.policy <;> simp only [admits, hp, hr] at h <;> cases h
    | _ => cases hp : c.policy <;> simp only [admits, hp, Value.isKey] at h <;> cases h

/-- A child that is left out is of a type that is not registered, and such children are skipped. -/
theorem admits_eq_false {name : String} {index : Option Int}
    (h : (c.admits (some (.text name)) index).result = .ok false) : c.isRegistered name = false ∧ c.policy = .skip := by
  cases hregistered : c.isRegistered name with
  | true =>
    rw [admits_of_isRegistered hregistered] at h
    cases h
  | false =>
    cases hpolicy : c.policy with
    | skip => exact ⟨rfl, rfl⟩
    | refuse =>
      simp only [admits, hregistered, hpolicy] at h
      cases h

theorem consult_eq_ok {name : String} {s : Schema} (h : (c.consult name).result = .ok s) : c.schema name = .ok s := by
  obtain ⟨found, hfound, h⟩ := Render.bind_eq_ok.mp h
  obtain ⟨-, -, h⟩ := Render.bind_eq_ok.mp h
  cases h
  exact hfound

theorem parentSchema_named_eq_ok {name : String} (h : (c.parentSchema (.named name)).result = .ok parent) :
    parent = Schema.blank ∨ c.schema name = .ok parent := by
  simp only [parentSchema] at h
  split at h
  · cases h
    exact .inl rfl
  · exact .inr (consult_eq_ok h)

/-- The markup of one child at an index, none when it is skipped. -/
def childAt (c : Composition) (parent : Schema) (index : Nat) (entry : Value) : Render Markup := do
  let node ← Invocation.ofValue entry
  if ← c.admits (some (.text node.type)) (some (index : Int)) then
    c.component (.text node.type) (.object (childProps parent index node.props))
  else return []

/-- Children are rendered one after the other; what is empty is left out. -/
theorem childList_cons (index : Nat) (entry : Value) (rest : List Value) :
    c.childList parent index (entry :: rest) = do
      let m ← c.childAt parent index entry
      let others ← c.childList parent (index + 1) rest
      return if m.isEmpty then others else m :: others := by
  simp only [childList, childAt, bind_assoc]
  refine bind_congr fun node => bind_congr fun admitted => ?_
  cases admitted <;> simp

/-- The children behind others are rendered at the indices behind theirs. -/
theorem childList_append (index : Nat) (before after : List Value) :
    c.childList parent index (before ++ after) = do
      let found ← c.childList parent index before
      let others ← c.childList parent (index + before.length) after
      return found ++ others := by
  induction before generalizing index with
  | nil => simp [childList]
  | cons entry rest ih =>
    have hindex : index + (entry :: rest).length = index + 1 + rest.length := by
      rw [List.length_cons]
      omega
    rw [List.cons_append, childList_cons, childList_cons, ih, hindex]
    simp only [bind_assoc, pure_bind]
    refine bind_congr fun m => bind_congr fun found => bind_congr fun others => ?_
    cases m.isEmpty <;> rfl

/-- The bag of a child has the index, its own props, and what the parent's slot declares. -/
theorem get?_childProps (parent : Schema) (index : Nat) {props : Members} (h : props.keys.Nodup) (k : String) :
    (childProps parent index props).get? k =
      if k = indexKey then some (.int index)
      else (props.get? k).or ((parent.slot? index).bind (·.defaults.get? k)) := by
  rw [childProps, Members.get?_set, Schema.get?_place _ _ h]

theorem nodup_keys_childProps (hp : parent.hasProperSlots = true) (index : Nat) {props : Members}
    (h : props.keys.Nodup) : (childProps parent index props).keys.Nodup :=
  Members.nodup_keys_set (Schema.nodup_keys_place hp index h) _ _

end Composition
end DesignKit
