import DesignKit.Proofs.Library

/-! # Precedence of props

The bag that a child is rendered with has its index, then its own props, then what the parent's slot declares
for them, then the defaults of its own schema. A hero looks at its children itself before it renders any, and
comes to the same bags. -/

namespace DesignKit

/-- The bag that a render function is handed for an object of props. -/
def Schema.handed (own : Schema) (props : Members) : Members :=
  own.fill (Members.ofEntries props)

theorem Schema.get?_handed (own : Schema) {props : Members} (h : props.keys.Nodup) (k : String) :
    (own.handed props).get? k = (props.get? k).or ((own.field? k).map (·.default)) := by
  rw [handed, get?_fill, Members.ofEntries_of_nodup h]

/-- A child under the slot of its parent: its index before its own props, these before what the slot declares,
and that before the defaults of its own schema. -/
theorem Schema.get?_handed_childProps (own : Schema) {parent : Schema} (hp : parent.hasProperSlots = true)
    (index : Nat) (props : Members) (k : String) :
    (own.handed (Composition.childProps parent index (Members.ofEntries props))).get? k =
      if k = Composition.indexKey then some (.int index)
      else (((Members.ofEntries props).get? k).or ((parent.slot? index).bind (·.defaults.get? k))).or
        ((own.field? k).map (·.default)) := by
  have hprops := Members.nodup_keys_ofEntries props
  rw [get?_handed own (Composition.nodup_keys_childProps hp index hprops), Composition.get?_childProps parent index hprops]
  split
  · rfl
  · rfl

/-- Props that are placed under a slot before they are read have the values of those placed afterwards. -/
theorem Schema.get?_placeValue {s : Schema} (hs : s.hasProperSlots = true) {index : Int} {props placed : Value}
    (hplaced : s.placeValue index props = .ok placed) {entries given : Entries}
    (hentries : Entries.ofValue props = .ok entries) (hgiven : Entries.ofValue placed = .ok given) (k : String) :
    given.toMembers.get? k = (s.place index entries.toMembers).get? k := by
  unfold placeValue at hplaced
  unfold place
  cases hslot : s.slot? index with
  | none =>
    rw [hslot] at hplaced
    cases hplaced
    rw [hgiven] at hentries
    cases hentries
    rfl
  | some slot =>
    rw [hslot] at hplaced
    -- Only an object can be placed under a slot.
    cases props with
    | object m =>
      cases hplaced
      cases hentries
      cases hgiven
      have hwritten := Entries.toMembers_ofMembers (slot.defaults.update m)
      rw [Members.ofEntries_of_nodup (Members.nodup_keys_update (nodup_keys_slot hs hslot) m)] at hwritten
      change (Entries.ofMembers (slot.defaults.update m)).toMembers.get? k =
        (slot.defaults.update (Entries.ofMembers m).toMembers).get? k
      rw [hwritten, Entries.toMembers_ofMembers, Members.get?_update, Members.get?_update,
        Members.ofEntries_of_nodup (Members.nodup_keys_ofEntries m)]
    | _ => cases hplaced

/-! ### Children that are rendered -/

namespace Renderer
variable {r : Renderer} {type : String} {f : RenderFunction} {own : Schema}

/-- A component is its render function applied to the bag that it is handed. -/
theorem component_of_find? (hf : r.registry.find? type = some f) (hown : r.schema type = .ok own) (depth : Nat)
    (props : Members) :
    r.component (depth + 1) (.text type) (.object props) = (do
      Render.log (.consulted type)
      f.apply (r.composition (r.component depth)) (own.handed props)) := by
  simp only [component, function, fill, hf, hown, Members.ofOptional_object, Render.monadLift_eq,
    Render.lift_ok, pure_bind, bind_assoc]
  rfl

/-- A component comes to what its render function does for the filled props, from components that may nest one level
less. -/
theorem result_component (hf : r.registry.find? type = some f) {props : Value} {bag : Members}
    (hbag : (r.fill type props).result = .ok bag) (levels : Nat) :
    (r.component (levels + 1) (.text type) props).result =
      (f.apply (r.composition (r.component levels)) bag).result := by
  have hfunction : r.function (.text type) = .ok (type, f) := by
    rw [function, hf]
  simp only [component, hfunction, Render.monadLift_eq, Render.lift_ok, pure_bind]
  rw [Render.bind_of_ok hbag]

theorem childAt_of_find? (hf : r.registry.find? type = some f) (hown : r.schema type = .ok own) (depth : Nat)
    (parent : Schema) (index : Nat) {entry : Value} {props : Members} (hn : Invocation.ofValue entry = .ok ⟨type, props⟩) :
    (r.composition (r.component (depth + 1))).childAt parent index entry = (do
      Render.log (.consulted type)
      f.apply (r.composition (r.component depth)) (own.handed (Composition.childProps parent index props))) := by
  have hadmits : (r.composition (r.component (depth + 1))).admits (some (.text type)) (some (index : Int)) = pure true := by
    refine Composition.admits_of_isRegistered ?_ _
    show (r.registry.find? type).isSome = true
    rw [hf]
    rfl
  simp only [Composition.childAt, hn, hadmits, Render.monadLift_eq, Render.lift_ok, pure_bind, if_pos]
  exact component_of_find? hf hown depth _

/-- The children around one that is registered: its render function is applied at its place between them. -/
theorem children_of_find? (hf : r.registry.find? type = some f) (hown : r.schema type = .ok own) (depth : Nat)
    {place : Parent} {parent : Schema}
    (hparent : ((r.composition (r.component (depth + 1))).parentSchema place).result = .ok parent)
    (before after : List Value) {entry : Value} {props : Members} (hn : Invocation.ofValue entry = .ok ⟨type, props⟩) :
    (r.composition (r.component (depth + 1))).children (.list (before ++ entry :: after)) place = (do
      let _ ← (r.composition (r.component (depth + 1))).parentSchema place
      let above ← (r.composition (r.component (depth + 1))).childList parent 0 before
      Render.log (.consulted type)
      let m ← f.apply (r.composition (r.component depth)) (own.handed (Composition.childProps parent before.length props))
      let below ← (r.composition (r.component (depth + 1))).childList parent (before.length + 1) after
      return Markup.joinLines (above ++ if m.isEmpty then below else m :: below)) := by
  have htruthy : (Value.list (before ++ entry :: after)).truthy = true := by
    cases before <;> rfl
  unfold Composition.children
  rw [if_pos htruthy]
  refine Render.Ensures.bind_congr (P := (· = parent)) (fun _ hs => Except.ok.inj (hs.symm.trans hparent)) ?_
  intro _ hs
  rw [hs]
  show (r.composition (r.component (depth + 1))).childList parent 0 (before ++ entry :: after) >>= _ = _
  rw [Composition.childList_append, Nat.zero_add]
  simp only [Composition.childList_cons, childAt_of_find? hf hown depth parent before.length hn, bind_assoc, pure_bind]

end Renderer

/-! ### Children of a hero -/

namespace Hero
variable {parent : Schema} {children : List Value}

/-- A bag that a hero makes of one of its children of a type. -/
def Makes (parent : Schema) (children : List Value) (type : String) (bag : Members) : Prop :=
  ∃ (i : Nat) (child : Value), children[i]? = some child ∧ part? child "type" = some (.text type) ∧
    childBag parent i ((part? child "props").getD .null) = .ok bag

/-- A selection among children consists of bags made of them. -/
structure Selection.From (parent : Schema) (children : List Value) (s : Selection) : Prop where
  intro : ∀ bag, s.intro = some bag → Makes parent children "intro" bag
  buttons : ∀ bag ∈ s.buttons, Makes parent children "button" bag

theorem Selection.from_empty : Selection.From parent children ⟨none, []⟩ where
  intro _ h := by cases h
  buttons _ h := by cases h

theorem Selection.From.add {s : Selection} (h : s.From parent children) {type : String} {bag : Members}
    (hb : Makes parent children type bag) : (s.add (.text type) bag).From parent children := by
  unfold Selection.add
  split
  · rename_i hintro
    obtain rfl : type = "intro" := by simpa [Value.same] using (Bool.and_eq_true_iff.mp hintro).1
    exact ⟨fun b heq => by cases heq; exact hb, h.buttons⟩
  · split
    · rename_i hbutton
      obtain rfl : type = "button" := by
        simpa [Value.same] using (Bool.and_eq_true_iff.mp (Bool.and_eq_true_iff.mp hbutton).1).1
      refine ⟨h.intro, fun b hmem => ?_⟩
      rcases List.mem_append.mp hmem with hmem | hmem
      · exact h.buttons b hmem
      · rw [List.mem_singleton.mp hmem]
        exact hb
    · exact h

theorem select_from (c : Composition) (index : Nat) {entries : List Value}
    (he : ∀ j entry, entries[j]? = some entry → children[index + j]? = some entry) {s : Selection}
    (hs : s.From parent children) : (select c parent index entries s).Ensures (·.From parent children) := by
  induction entries generalizing index s with
  | nil => exact Render.Ensures.pure hs
  | cons child rest ih =>
    have hrest : ∀ j entry, rest[j]? = some entry → children[index + 1 + j]? = some entry := fun j entry hj => by
      rw [Nat.add_assoc, Nat.add_comm 1 j]
      exact he (j + 1) entry hj
    simp only [select]
    refine Render.Ensures.bind_result fun admitted ha => ?_
    cases admitted with
    | true =>
      obtain ⟨name, htype, -⟩ := Composition.admits_eq_true ha
      refine Render.Ensures.bind_result fun bag hbag => ih (index + 1) hrest ?_
      rw [htype]
      exact hs.add ⟨index, child, he 0 child rfl, htype, hbag⟩
    | false => exact ih (index + 1) hrest hs

/-- A hero makes the same of a child as the rendering of children does. -/
theorem childBag_same (hp : parent.hasProperSlots = true) {index : Nat} {child : Value} {bag : Members}
    (hb : childBag parent index ((part? child "props").getD .null) = .ok bag) {node : Invocation}
    (hn : Invocation.ofValue child = .ok node) :
    bag.keys.Nodup ∧ ∀ k, bag.get? k = (Composition.childProps parent index node.props).get? k := by
  obtain ⟨m, entries, rfl, hentries, rfl⟩ := Invocation.ofValue_eq_ok hn
  obtain ⟨placed, hplaced, hb⟩ := except_bind_eq_ok.mp hb
  obtain ⟨written, hwritten, hb⟩ := except_bind_eq_ok.mp hb
  cases hb
  obtain ⟨given, hgiven, rfl⟩ := Members.ofValue_eq_ok hwritten
  refine ⟨Members.nodup_keys_set (Entries.nodup_keys_toMembers given) _ _, fun k => ?_⟩
  rw [Composition.childProps, Members.get?_set, Members.get?_set, Schema.get?_placeValue hp hplaced hentries hgiven]

/-- A bag for the child of a type at some index from which its render function is handed what it is handed among
any children of the parent; of a button the size and the shadow may differ. -/
def Hands (parent : Schema) (children : List Value) (type : String) (bag : Members) : Prop :=
  ∃ (i : Nat) (child : Value), children[i]? = some child ∧ part? child "type" = some (.text type) ∧
    ∀ node, Invocation.ofValue child = .ok node → node.type = type ∧
      ∀ (own : Schema) (k : String), (type = "button" → k ≠ "size" ∧ k ≠ "shadow") →
        (own.handed bag).get? k = (own.handed (Composition.childProps parent i node.props)).get? k

theorem type_of_part? {child : Value} {type : String} (h : part? child "type" = some (.text type)) {node : Invocation}
    (hn : Invocation.ofValue child = .ok node) : node.type = type := by
  obtain ⟨m, entries, rfl, -, rfl⟩ := Invocation.ofValue_eq_ok hn
  exact Invocation.print_type h

/-- Bags with the same values are handed on alike. -/
theorem Makes.hands (hp : parent.hasProperSlots = true) {type : String} {bag : Members}
    (h : Makes parent children type bag) {handed : Members} (hnodup : bag.keys.Nodup → handed.keys.Nodup)
    (hsame : ∀ k, (type = "button" → k ≠ "size" ∧ k ≠ "shadow") → handed.get? k = bag.get? k) :
    Hands parent children type handed := by
  obtain ⟨i, child, hchild, htype, hbag⟩ := h
  refine ⟨i, child, hchild, htype, fun node hn => ⟨type_of_part? htype hn, fun own k hk => ?_⟩⟩
  obtain ⟨hkeys, hget⟩ := childBag_same hp hbag hn
  have hprops := Composition.nodup_keys_childProps hp i (Invocation.nodup_keys_of_ofValue hn)
  rw [Schema.get?_handed own (hnodup hkeys), Schema.get?_handed own hprops, hsame k hk, hget k]

theorem Makes.hands_intro (hp : parent.hasProperSlots = true) {bag : Members} (h : Makes parent children "intro" bag) :
    Hands parent children "intro" bag :=
  h.hands hp id fun _ _ => rfl

theorem Makes.hands_button (hp : parent.hasProperSlots = true) {bag : Members} (h : Makes parent children "button" bag)
    (size : String) (isFirst : Bool) : Hands parent children "button" (buttonBag size isFirst bag) := by
  refine h.hands hp (fun hnodup => Members.nodup_keys_set (Members.nodup_keys_set hnodup _ _) _ _) fun k hk => ?_
  obtain ⟨hsize, hshadow⟩ := hk rfl
  rw [buttonBag, Members.get?_set_ne _ _ hshadow, Members.get?_set_ne _ _ hsize]

theorem select_congr (c : Composition) (component : Value → Value → Render Markup) (parent : Schema) (index : Nat)
    (entries : List Value) (s : Selection) :
    select { c with component := component } parent index entries s = select c parent index entries s := by
  induction entries generalizing index s with
  | nil => rfl
  | cons child rest ih =>
    simp only [select, ih]
    rfl

section
variable {c : Composition} {component : Value → Value → Render Markup} (hp : parent.hasProperSlots = true)
  (h : ∀ type bag, type = "intro" ∨ type = "button" → Hands parent children type bag →
    c.component (.text type) (.object bag) = component (.text type) (.object bag))
include hp h

theorem introLines_congr {intro : Option Members} (hi : ∀ bag, intro = some bag → Makes parent children "intro" bag) :
    introLines c intro = introLines { c with component := component } intro := by
  cases intro with
  | none => rfl
  | some bag => simp only [introLines, h "intro" bag (.inl rfl) ((hi bag rfl).hands_intro hp)]

theorem buttonLines_congr (size : String) {bags : List Members} (hb : ∀ bag ∈ bags, Makes parent children "button" bag)
    (isFirst : Bool) :
    buttonLines c size isFirst bags = buttonLines { c with component := component } size isFirst bags := by
  induction bags generalizing isFirst with
  | nil => rfl
  | cons bag rest ih =>
    have hbag := (hb bag List.mem_cons_self).hands_button hp size isFirst
    simp only [buttonLines, h "button" _ (.inr rfl) hbag, ih fun b hmem => hb b (List.mem_cons_of_mem _ hmem)]

end

/-- A hero renders nothing but the intros and buttons among its children, each with a bag that hands on the same. -/
theorem template_congr {c : Composition} (hs : c.schema "hero" = .ok parent) (hp : parent.hasProperSlots = true)
    {props : Members} {component : Value → Value → Render Markup}
    (h : ∀ children, Helper.items ((props.get "children").orElse (.list [])) = .ok children → ∀ type bag,
      type = "intro" ∨ type = "button" → Hands parent children type bag →
      c.component (.text type) (.object bag) = component (.text type) (.object bag)) :
    template c props = template { c with component := component } props := by
  have hconsult : (c.consult "hero").Ensures (· = parent) := by
    unfold Composition.consult
    rw [hs]
    exact Render.Ensures.bind_result fun s hs => Render.Ensures.bind_result fun _ _ =>
      Render.Ensures.pure (Except.ok.inj hs).symm
  refine Render.Ensures.bind_congr hconsult fun s hs => ?_
  rw [hs]
  refine Render.Ensures.bind_congr (P := fun children =>
    Helper.items ((props.get "children").orElse (.list [])) = .ok children) (fun _ hok => hok) fun children hchildren => ?_
  have hfrom : (select c parent 0 children ⟨none, []⟩).Ensures (·.From parent children) :=
    select_from c 0 (fun j entry hj => by rwa [Nat.zero_add]) Selection.from_empty
  rw [select_congr c component]
  refine Render.Ensures.bind_congr hfrom fun chosen hc => bind_congr fun css => ?_
  rw [introLines_congr hp (h children hchildren) hc.intro, buttonLines_congr hp (h children hchildren) _ hc.buttons]

end Hero

/-- What the render function of a child is handed among any children, from first to last precedence: the index,
its own props, the defaults of its slot and those of its own schema. Props that are absent or null are no props.
A hero hands its intros and buttons the same, but for the size and the shadow of a button: with any other bag
its composition may do something else, and nothing changes. -/
theorem bag_precedence :
    (∀ (r : Renderer) (depth : Nat) (place : Parent) (parent own : Schema) (before after : List Value)
        (m props : Members) (type : String) (f : RenderFunction),
      let c := r.composition (r.component (depth + 1))
      parent.hasProperSlots = true → (c.parentSchema place).result = .ok parent →
      m.get? "type" = some (.text type) → r.registry.find? type = some f → r.schema type = .ok own →
      (m.get "props").orElse (.object []) = .object props →
      ∃ bag : Members,
        c.children (.list (before ++ .object m :: after)) place = (do
          let _ ← c.parentSchema place
          let above ← c.childList parent 0 before
          Render.log (.consulted type)
          let m ← f.apply (r.composition (r.component depth)) bag
          let below ← c.childList parent (before.length + 1) after
          return Markup.joinLines (above ++ if m.isEmpty then below else m :: below)) ∧
        bag = own.handed (Composition.childProps parent before.length (Members.ofEntries props)) ∧
        ∀ k, bag.get? k =
          if k = "_child_index" then some (.int before.length)
          else (((Members.ofEntries props).get? k).or ((parent.slot? before.length).bind (·.defaults.get? k))).or
            ((own.field? k).map (·.default))) ∧
    (∀ (c : Composition) (parent : Schema) (component : Value → Value → Render Markup) (props : Members),
      c.schema "hero" = .ok parent → parent.hasProperSlots = true →
      (∀ children, Helper.items ((props.get "children").orElse (.list [])) = .ok children → ∀ type bag,
        type = "intro" ∨ type = "button" → Hero.Hands parent children type bag →
        c.component (.text type) (.object bag) = component (.text type) (.object bag)) →
      Hero.template c props = Hero.template { c with component := component } props) := by
  constructor
  · intro r depth place parent own before after m props type f c hp hparent htype hf hown hprops
    have hn : Invocation.ofValue (.object m) = .ok ⟨type, Members.ofEntries props⟩ := by
      rw [Invocation.ofValue_object hprops, Invocation.print_type htype]
    refine ⟨_, Renderer.children_of_find? hf hown depth hparent before after hn, rfl, fun k => ?_⟩
    exact Schema.get?_handed_childProps own hp before.length props k
  · intro c parent component props hs hp h
    exact Hero.template_congr hs hp h

theorem bag_precedence_section :
    let bag := Intro.schema.handed (Composition.childProps Section.schema 0
      [("_child_index", .int 9), ("title", .null)])
    (bag.get? "_child_index" = some (.int 0) ∧ bag.get? "title" = some .null ∧ bag.get? "size" = some (.text "l") ∧
      bag.get? "align" = some (.text "center") ∧ bag.get? "icon" = none) ∧
    ∀ props, Hero.template ((Renderer.bundle .skip).compositionFor .null) props =
      Hero.template { (Renderer.bundle .skip).compositionFor .null with
        component := fun type props => if type.same (.text "intro") || type.same (.text "button")
          then ((Renderer.bundle .skip).compositionFor .null).component type props else Render.fail .notKey } props := by
  intro bag
  obtain ⟨_, -, rfl, hbag⟩ := bag_precedence.1 (Renderer.bundle .skip) 0 (.named "section") Section.schema Intro.schema
    [] [] [("type", .text "intro"), ("props", .object [("_child_index", .int 9), ("title", .null)])]
    [("_child_index", .int 9), ("title", .null)] "intro" (.bundled .intro) (by decide) rfl rfl rfl
    rfl rfl
  refine ⟨⟨hbag _, hbag _, hbag _, hbag _, hbag _⟩, fun props => ?_⟩
  refine bag_precedence.2 _ Hero.schema _ props rfl (by decide) fun _ _ type _ ht _ => ?_
  rcases ht with rfl | rfl <;> rfl

end DesignKit
