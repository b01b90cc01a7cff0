import DesignKit.Proofs.Nesting
import DesignKit.Proofs.Substance
import DesignKit.Proofs.Wrapper

/-! # Trees with a hole

A tree of containers and sections with a hole shows what is put into the hole as it is, between two texts
that depend on the tree alone. The siblings of the hole leave their own texts there, each rendered at its
index among all siblings; one that shows nothing leaves no line behind. -/

namespace DesignKit
open Markup

/-! ### Positions -/

/-- Where a node stands: at the root, or among the children of a wrapper. -/
inductive Position where
  | root
  | under (w : Wrapper) (index : Nat)

/-- The props of a node that are resolved for its position. -/
def Position.props : Position → Members → Members
  | root, props => props
  | under w index, props => Composition.childProps w.bundled.schema index props

/-- What a rendering prints, nothing when it fails. -/
def Render.text (x : Render Markup) : String :=
  match x.result with
  | .ok m => m.print
  | .error _ => ""

namespace Renderer

/-- The markup of a node at a position. -/
def renderAt (r : Renderer) (place : Position) (node : Value) : Render Markup := do
  let inv ← Invocation.ofValue node
  r.renderComponent (.text inv.type) (.object (place.props inv.props))

/-- The markup of a child of a wrapper at an index, none when its type is skipped. -/
def siblingAt (r : Renderer) (w : Wrapper) (index : Nat) (entry : Value) : Render Markup :=
  (r.composition r.renderComponent).childAt w.bundled.schema index entry

/-- The texts of children of a wrapper from an index on. -/
def siblingTexts (r : Renderer) (w : Wrapper) (index : Nat) (entries : List Value) : List String :=
  (entries.zipIdx index).map fun (entry, i) => (r.siblingAt w i entry).text

/-- Children of a wrapper from an index on can be rendered. -/
def SiblingsRender (r : Renderer) (w : Wrapper) (index : Nat) (entries : List Value) : Prop :=
  ∀ e ∈ entries.zipIdx index, ∃ m, (r.siblingAt w e.2 e.1).result = .ok m

end Renderer

/-! ### Contexts -/

/-- The texts that are not empty, each with a line break below it. -/
def linesAbove (texts : List String) : String :=
  String.join ((texts.filter (· ≠ "")).map (· ++ "\n"))

/-- The texts that are not empty, each with a line break above it. -/
def linesBelow (texts : List String) : String :=
  String.join ((texts.filter (· ≠ "")).map ("\n" ++ ·))

/-- A tree of wrappers with a hole. -/
inductive Context where
  | hole
  /-- A wrapper with any props, whose children are one with the hole in it and its siblings. -/
  | node (w : Wrapper) (props : Members) (before : List Value) (inner : Context) (after : List Value)

namespace Context

/-- The tree with a node in the hole. -/
def plug : Context → Value → Value
  | hole, v => v
  | node w props before inner after, v => .object [("type", .text w.bundled.name),
    ("props", .object ((Members.ofEntries props).set "children" (.list (before ++ inner.plug v :: after))))]

/-- Where the hole is when the tree stands at a position. -/
def position : Context → Position → Position
  | hole, place => place
  | node w _ before inner _, _ => inner.position (.under w before.length)

/-- All siblings along the way to the hole can be rendered. -/
def Renders (r : Renderer) : Context → Prop
  | hole => True
  | node w _ before inner after =>
    r.SiblingsRender w 0 before ∧ inner.Renders r ∧ r.SiblingsRender w (before.length + 1) after

/-- The text above the hole. -/
def left (r : Renderer) : Context → Position → String
  | hole, _ => ""
  | node w props before inner _, place =>
    w.opening (w.bundled.schema.fill (place.props (Members.ofEntries props))) ++
      linesAbove (r.siblingTexts w 0 before) ++ inner.left r (.under w before.length)

/-- The text below the hole. -/
def right (r : Renderer) : Context → Position → String
  | hole, _ => ""
  | node w _ before inner after, _ =>
    inner.right r (.under w before.length) ++ linesBelow (r.siblingTexts w (before.length + 1) after) ++ w.closing

end Context

/-! ### Lines -/

namespace Markup

theorem print_joinLines_cons (m : Markup) (rest : List Markup) :
    (joinLines (m :: rest)).print = m.print ++ String.join (rest.map fun n => "\n" ++ n.print) := by
  induction rest generalizing m with
  | nil =>
    rw [joinLines, print_cons_embedded]
    rfl
  | cons n rest ih =>
    rw [joinLines, print_cons_embedded, print_cons_newline, ih n, List.map_cons, String.join_cons, String.append_assoc]
    nofun

theorem print_joinLines (above : List Markup) (m : Markup) (below : List Markup) :
    (joinLines (above ++ m :: below)).print =
      String.join (above.map fun n => n.print ++ "\n") ++ m.print ++ String.join (below.map fun n => "\n" ++ n.print) := by
  induction above with
  | nil =>
    rw [List.nil_append, print_joinLines_cons]
    simp
  | cons n rest ih =>
    have hcons : joinLines (n :: (rest ++ m :: below)) = .embedded n :: newline :: joinLines (rest ++ m :: below) := by
      cases rest <;> rfl
    rw [List.cons_append, hcons, print_cons_embedded, print_cons_newline, ih]
    simp [String.append_assoc]

end Markup

/-! ### Children -/

namespace Renderer
variable {policy : Policy} {w : Wrapper} {depth index : Nat}

/-- What the props of a child come to at its position is no deeper than the child. -/
theorem depth_props_under {v : Value} {inv : Invocation} (hn : Invocation.ofValue v = .ok inv) (w : Wrapper)
    (index : Nat) : (Value.object ((Position.under w index).props inv.props)).depth ≤ v.depth :=
  Nat.le_trans (Composition.depth_childProps (Bundled.isFlat_schema w.bundled) index inv.props)
    (Invocation.depth_props hn)

theorem admits_of_known {name : String} {b : Bundled} (hb : Bundled.ofName? name = some b)
    (f : Value → Value → Render Markup) (i : Option Int) :
    ((bundle policy).composition f).admits (some (.text name)) i = pure true := by
  refine Composition.admits_of_isRegistered ?_ i
  rw [isRegistered_bundle, hb, Option.isSome_some]

/-- A child is rendered in a tree as it is rendered at its position. -/
theorem childAt_of_component {v : Value} {inv : Invocation} (hn : Invocation.ofValue v = .ok inv) {m : Markup}
    (h : ((bundle policy).component depth (.text inv.type)
      (.object ((Position.under w index).props inv.props))).result = .ok m) :
    (((bundle policy).composition ((bundle policy).component depth)).childAt w.bundled.schema index v).result = .ok m := by
  obtain ⟨name, b, htype, hb⟩ := known_of_component h
  cases htype
  refine Render.bind_eq_ok.mpr ⟨inv, hn, ?_⟩
  rw [admits_of_known hb]
  exact h

theorem childAt_of_siblingAt {entry : Value} (hdepth : entry.depth + allowance ≤ depth) {m : Markup}
    (h : ((bundle policy).siblingAt w index entry).result = .ok m) :
    (((bundle policy).composition ((bundle policy).component depth)).childAt w.bundled.schema index entry).result = .ok m ∧
      m.Substantial := by
  obtain ⟨inv, hn, h⟩ := Render.bind_eq_ok.mp h
  obtain ⟨admitted, ha, h⟩ := Render.bind_eq_ok.mp h
  cases admitted with
  | true =>
    refine ⟨childAt_of_component hn (component_of_le ?_ h), component_substantial policy _ _ _ m h⟩
    exact Nat.le_trans (Nat.add_le_add_right (depth_props_under hn w index) allowance) hdepth
  | false =>
    cases h
    exact ⟨Render.bind_eq_ok.mpr ⟨inv, hn, Render.bind_eq_ok.mpr ⟨false, ha, rfl⟩⟩, substantial_nil⟩

theorem siblingTexts_cons (r : Renderer) (w : Wrapper) (index : Nat) (entry : Value) (rest : List Value) :
    r.siblingTexts w index (entry :: rest) = (r.siblingAt w index entry).text :: r.siblingTexts w (index + 1) rest := rfl

/-- The children that are found are those whose text is not empty. -/
theorem childList_of_siblingsRender {entries : List Value} (hdepth : ∀ entry ∈ entries, entry.depth + allowance ≤ depth)
    (hs : (bundle policy).SiblingsRender w index entries) :
    ∃ found, (((bundle policy).composition ((bundle policy).component depth)).childList w.bundled.schema index
        entries).result = .ok found ∧
      found.map Markup.print = ((bundle policy).siblingTexts w index entries).filter (· ≠ "") := by
  induction entries generalizing index with
  | nil => exact ⟨[], rfl, rfl⟩
  | cons entry rest ih =>
    obtain ⟨m, hm⟩ := hs (entry, index) List.mem_cons_self
    obtain ⟨hchild, hsub⟩ := childAt_of_siblingAt (hdepth entry List.mem_cons_self) hm
    obtain ⟨found, hfound, htexts⟩ := ih (fun e he => hdepth e (List.mem_cons_of_mem _ he))
      fun e he => hs e (List.mem_cons_of_mem _ he)
    have htext : ((bundle policy).siblingAt w index entry).text = m.print := by
      rw [Render.text, hm]
    refine ⟨if m.isEmpty then found else m :: found, ?_, ?_⟩
    · rw [Composition.childList_cons]
      exact Render.bind_eq_ok.mpr ⟨m, hchild, Render.bind_eq_ok.mpr ⟨found, hfound, rfl⟩⟩
    · -- A child that prints nothing is empty, so what is dropped is what has no text.
      rw [siblingTexts_cons, htext]
      exact map_print_kept hsub htexts

end Renderer

/-! ### Trees -/

namespace Context
open Renderer (bundle allowance)
variable {policy : Policy}

/-- The props of a wrapper in a tree. -/
def wrapped (props : Members) (children : List Value) : Members :=
  (Members.ofEntries props).set "children" (.list children)

theorem nodup_keys_wrapped (props : Members) (children : List Value) : (wrapped props children).keys.Nodup :=
  Members.nodup_keys_set (Members.nodup_keys_ofEntries props) _ _

theorem ofValue_wrapper (w : Wrapper) (props : Members) (children : List Value) :
    Invocation.ofValue (.object [("type", .text w.bundled.name), ("props", .object (wrapped props children))]) =
      .ok ⟨w.bundled.name, wrapped props children⟩ := by
  have hprops : (Members.get [("type", .text w.bundled.name), ("props", .object (wrapped props children))] "props").orElse
      (.object []) = .object (wrapped props children) := by
    show (Value.object (wrapped props children)).orElse (.object []) = _
    cases wrapped props children <;> rfl
  rw [Invocation.ofValue_object hprops, Members.ofEntries_of_nodup (nodup_keys_wrapped props children)]
  cases w <;> rfl

theorem get?_props (place : Position) {props : Members} (h : props.keys.Nodup) (key : String) :
    (place.props props).get? key = match place with
      | .root => props.get? key
      | .under w index => if key = Composition.indexKey then some (.int index)
        else (props.get? key).or ((w.bundled.schema.slot? index).bind (·.defaults.get? key)) := by
  cases place with
  | root => rfl
  | under w index => exact Composition.get?_childProps _ index h key

theorem nodup_keys_props (place : Position) {props : Members} (h : props.keys.Nodup) : (place.props props).keys.Nodup := by
  cases place with
  | root => exact h
  | under w index => exact Composition.nodup_keys_childProps (by cases w <;> decide) index h

/-- The children of a wrapper reach its template whatever its position. -/
theorem get?_children (place : Position) (props : Members) (children : List Value) :
    (place.props (wrapped props children)).get? "children" = some (.list children) := by
  rw [get?_props place (nodup_keys_wrapped props children)]
  have hself : (wrapped props children).get? "children" = some (.list children) := Members.get?_set_self _ _ _
  cases place with
  | root => exact hself
  | under w index =>
    simp only [hself, Option.some_or]
    rw [if_neg (by decide)]

theorem opening_wrapped (w : Wrapper) (place : Position) (props : Members) (children : List Value) :
    w.opening (w.bundled.schema.fill (place.props (wrapped props children))) =
      w.opening (w.bundled.schema.fill (place.props (Members.ofEntries props))) := by
  refine w.opening_congr fun key hkey => ?_
  have hget : (wrapped props children).get? key = (Members.ofEntries props).get? key := Members.get?_set_ne _ _ hkey
  rw [Schema.get?_fill, Schema.get?_fill, get?_props place (nodup_keys_wrapped props children),
    get?_props place (Members.nodup_keys_ofEntries props), hget]

theorem children_of_childList {w : Wrapper} {f : Value → Value → Render Markup} {children : List Value}
    (hne : children ≠ []) {found : List Markup}
    (h : (((bundle policy).composition f).childList w.bundled.schema 0 children).result = .ok found) :
    (((bundle policy).composition f).children (.list children) (.named w.bundled.name)).result =
      .ok (joinLines found) := by
  have htruthy : (Value.list children).truthy = true := by
    cases children with
    | nil => exact absurd rfl hne
    | cons => rfl
  unfold Composition.children
  rw [if_pos htruthy]
  refine Render.bind_eq_ok.mpr ⟨w.bundled.schema, w.parentSchema_bundled policy f, Render.bind_eq_ok.mpr ⟨children, rfl, ?_⟩⟩
  exact Render.bind_eq_ok.mpr ⟨found, h, rfl⟩

/-- A wrapper in a tree writes what is found of its children between its two parts. -/
theorem component_wrapper {w : Wrapper} (place : Position) (props : Members) {depth : Nat} {children : List Value}
    (hne : children ≠ []) {found : List Markup}
    (h : (((bundle policy).composition ((bundle policy).component depth)).childList w.bundled.schema 0
      children).result = .ok found) :
    ∃ m, ((bundle policy).component (depth + 1) (.text w.bundled.name)
        (.object (place.props (wrapped props children)))).result = .ok m ∧
      m.print = w.opening (w.bundled.schema.fill (place.props (Members.ofEntries props))) ++ (joinLines found).print ++
        w.closing := by
  have hnodup := nodup_keys_props place (nodup_keys_wrapped props children)
  have hbag : (w.bundled.schema.fill (place.props (wrapped props children))).get "children" = .list children := by
    rw [Members.get, Schema.get?_fill, get?_children]
    rfl
  refine ⟨w.markup (w.bundled.schema.fill (place.props (wrapped props children))) (joinLines found), ?_, ?_⟩
  · rw [Renderer.component_bundle w.ofName?_bundled, Renderer.fill_bundle w.ofName?_bundled,
      Members.ofOptional_object, Members.ofEntries_of_nodup hnodup]
    refine Render.bind_eq_ok.mpr ⟨_, rfl, ?_⟩
    rw [Wrapper.template_eq, hbag]
    exact Render.bind_eq_ok.mpr ⟨joinLines found, children_of_childList hne h, rfl⟩
  · rw [Wrapper.print_markup, opening_wrapped]

/-- The children lie at least two levels deeper than the props that hold them. -/
theorem depth_child (place : Position) (props : Members) {children : List Value} {entry : Value} (h : entry ∈ children) :
    entry.depth + 1 < (Value.object (place.props (wrapped props children))).depth :=
  Nat.lt_of_le_of_lt (Value.depth_lt_of_mem h) (Value.depth_lt_of_get? (get?_children place props children))

/-- A child that shows something stands between the lines of its siblings. -/
theorem childList_around {w : Wrapper} {depth : Nat} {before after : List Value} {v : Value}
    (hdepth : ∀ entry ∈ before ++ v :: after, entry.depth + allowance ≤ depth)
    (hbefore : (bundle policy).SiblingsRender w 0 before)
    (hafter : (bundle policy).SiblingsRender w (before.length + 1) after) {m : Markup}
    (hm : (((bundle policy).composition ((bundle policy).component depth)).childAt w.bundled.schema
      before.length v).result = .ok m)
    (hne : m.print ≠ "") :
    ∃ found, (((bundle policy).composition ((bundle policy).component depth)).childList w.bundled.schema 0
        (before ++ v :: after)).result = .ok found ∧
      (joinLines found).print = linesAbove ((bundle policy).siblingTexts w 0 before) ++ m.print ++
        linesBelow ((bundle policy).siblingTexts w (before.length + 1) after) := by
  obtain ⟨above, habove, htextsAbove⟩ := Renderer.childList_of_siblingsRender
    (fun e he => hdepth e (List.mem_append_left _ he)) hbefore
  obtain ⟨below, hbelow, htextsBelow⟩ := Renderer.childList_of_siblingsRender
    (fun e he => hdepth e (List.mem_append_right _ (List.mem_cons_of_mem _ he))) hafter
  refine ⟨above ++ m :: below, ?_, ?_⟩
  · have hfull : m.isEmpty = false := by
      cases m with
      | nil => exact absurd rfl hne
      | cons => rfl
    rw [Composition.childList_append, Nat.zero_add, Composition.childList_cons]
    refine Render.bind_eq_ok.mpr ⟨above, habove, Render.bind_eq_ok.mpr ⟨m :: below, ?_, rfl⟩⟩
    refine Render.bind_eq_ok.mpr ⟨m, hm, Render.bind_eq_ok.mpr ⟨below, hbelow, ?_⟩⟩
    rw [hfull]
    rfl
  · rw [print_joinLines, linesAbove, linesBelow, ← htextsAbove, ← htextsBelow, List.map_map, List.map_map]
    rfl

/-- A node in the hole of a tree shows as it does alone at its position, whatever levels are left for the
tree beyond those that its depth asks for. -/
theorem component_plug {k : Context} {place : Position} (hs : k.Renders (bundle policy)) {node : Value}
    {shown : Markup} (hn : ((bundle policy).renderAt (k.position place) node).result = .ok shown)
    (hne : shown.print ≠ "") :
    ∃ inv, Invocation.ofValue (k.plug node) = .ok inv ∧ ∀ depth,
      (Value.object (place.props inv.props)).depth + allowance ≤ depth →
      ∃ m, ((bundle policy).component depth (.text inv.type) (.object (place.props inv.props))).result = .ok m ∧
        m.print = k.left (bundle policy) place ++ shown.print ++ k.right (bundle policy) place := by
  induction k generalizing place with
  | hole =>
    obtain ⟨inv, hinv, h⟩ := Render.bind_eq_ok.mp hn
    refine ⟨inv, hinv, fun depth hdepth => ⟨shown, Renderer.component_of_le hdepth h, ?_⟩⟩
    simp [left, right]
  | node w props before inner after ih =>
    obtain ⟨hbefore, hinner, hafter⟩ := hs
    obtain ⟨inv, hinv, hrender⟩ := ih hinner hn
    let children := before ++ inner.plug node :: after
    have hmem : inner.plug node ∈ children := List.mem_append_right _ List.mem_cons_self
    refine ⟨⟨w.bundled.name, wrapped props children⟩, ofValue_wrapper w props children, fun depth hdepth => ?_⟩
    change (Value.object (place.props (wrapped props children))).depth + allowance ≤ depth at hdepth
    -- One level goes to the wrapper itself; its props are deep enough to leave the others to the children.
    obtain ⟨depth, rfl⟩ : ∃ d, depth = d + 1 := ⟨depth - 1, by have := depth_child place props hmem; omega⟩
    have hdeep : ∀ entry ∈ children, entry.depth + allowance ≤ depth := fun entry he => by
      have := depth_child place props he
      omega
    have hlevels := Nat.add_le_add_right (Renderer.depth_props_under hinv w before.length) allowance
    obtain ⟨m, hm, hprint⟩ := hrender depth (Nat.le_trans hlevels (hdeep _ hmem))
    have hshows : m.print ≠ "" := fun hempty => by
      rw [hprint] at hempty
      exact hne (String.append_eq_empty_iff.mp (String.append_eq_empty_iff.mp hempty).1).2
    obtain ⟨found, hfound, hlines⟩ := childList_around hdeep hbefore hafter (Renderer.childAt_of_component hinv hm) hshows
    obtain ⟨page, hpage, hpagePrint⟩ := component_wrapper place props (List.ne_nil_of_mem hmem) hfound
    refine ⟨page, hpage, ?_⟩
    rw [hpagePrint, hlines, hprint]
    simp only [left, right, String.append_assoc]

theorem siblingTexts_append (r : Renderer) (w : Wrapper) (index : Nat) (before after : List Value) :
    r.siblingTexts w index (before ++ after) =
      r.siblingTexts w index before ++ r.siblingTexts w (index + before.length) after := by
  rw [Renderer.siblingTexts, List.zipIdx_append, List.map_append]
  rfl

/-- A sibling without a text leaves no line behind, but those after it keep their indices. -/
theorem lines_of_empty {r : Renderer} {w : Wrapper} {index : Nat} {before : List Value} {entry : Value}
    (h : (r.siblingAt w (index + before.length) entry).text = "") (after : List Value) :
    let texts := r.siblingTexts w index before ++ r.siblingTexts w (index + before.length + 1) after
    linesAbove (r.siblingTexts w index (before ++ entry :: after)) = linesAbove texts ∧
      linesBelow (r.siblingTexts w index (before ++ entry :: after)) = linesBelow texts := by
  have hfilter : (r.siblingTexts w index (before ++ entry :: after)).filter (· ≠ "") =
      (r.siblingTexts w index before ++ r.siblingTexts w (index + before.length + 1) after).filter (· ≠ "") := by
    rw [siblingTexts_append, Renderer.siblingTexts_cons, h]
    simp
  exact ⟨by rw [linesAbove, hfilter, linesAbove], by rw [linesBelow, hfilter, linesBelow]⟩

theorem siblingAt_unknown (w : Wrapper) (index : Nat) {entry : Value} {inv : Invocation}
    (hn : Invocation.ofValue entry = .ok inv) (h : Registry.bundle.find? inv.type = none) :
    ((bundle .skip).siblingAt w index entry).result = .ok [] := by
  refine Render.bind_eq_ok.mpr ⟨inv, hn, Render.bind_eq_ok.mpr ⟨false, ?_, rfl⟩⟩
  have hunregistered : ((bundle .skip).composition (bundle .skip).renderComponent).isRegistered
      inv.type = false := by
    show (Registry.bundle.find? inv.type).isSome = false
    rw [h]
    rfl
  simp only [Composition.admits, hunregistered]
  rfl

/-- What shows at the position of a hole shows in the tree as it is, between the two texts of the tree. A
sibling that shows nothing, or is of an unknown type and skipped, leaves nothing in them but still counts. -/
theorem render_plug :
    (∀ (policy : Policy) (k : Context), k.Renders (bundle policy) → ∀ (node : Value) (shown : Markup),
      ((bundle policy).renderAt (k.position .root) node).result = .ok shown → shown.print ≠ "" →
      ∃ m, ((bundle policy).render (k.plug node)).result = .ok m ∧
        m.print = k.left (bundle policy) .root ++ shown.print ++ k.right (bundle policy) .root) ∧
    (∀ (r : Renderer) (w : Wrapper) (index : Nat) (before : List Value) (entry : Value) (after : List Value),
      (r.siblingAt w (index + before.length) entry).text = "" →
      let texts := r.siblingTexts w index before ++ r.siblingTexts w (index + before.length + 1) after
      linesAbove (r.siblingTexts w index (before ++ entry :: after)) = linesAbove texts ∧
        linesBelow (r.siblingTexts w index (before ++ entry :: after)) = linesBelow texts) ∧
    (∀ (w : Wrapper) (index : Nat) (entry : Value) (inv : Invocation), Invocation.ofValue entry = .ok inv →
      Registry.bundle.find? inv.type = none →
      ((bundle .skip).siblingAt w index entry).result = .ok []) := by
  refine ⟨fun policy k hs node shown hn hne => ?_, fun r w index before entry after h => lines_of_empty h after,
    fun w index entry inv hn h => siblingAt_unknown w index hn h⟩
  obtain ⟨inv, hinv, hrender⟩ := component_plug hs hn hne
  obtain ⟨m, hm, hprint⟩ := hrender _ (Nat.le_refl _)
  exact ⟨m, Render.bind_eq_ok.mpr ⟨inv, hinv, hm⟩, hprint⟩

theorem render_plug_badge :
    let badge (text : String) : Value := .object [("type", .text "badge"), ("props", .object [("text", .text text)])]
    let k : Context := .node .container [("gap", .text "s")] [badge "", .object [("type", .text "chart")]]
      (.node .section [] [] .hole [badge "last"]) []
    ∃ m, ((bundle .skip).render (k.plug (badge "<b>"))).result = .ok m ∧
      m.print = k.left (bundle .skip) .root ++
        "<span class=\"anti-badge anti-badge--neutral anti-badge--l\">&lt;b&gt;</span>" ++
        k.right (bundle .skip) .root := by
  intro badge k
  have hempty : ∃ m, ((bundle .skip).siblingAt .container 0 (badge "")).result = .ok m := ⟨_, rfl⟩
  have hunknown : ∃ m, ((bundle .skip).siblingAt .container 1 (.object [("type", .text "chart")])).result =
      .ok m := ⟨_, rfl⟩
  have hlast : ∃ m, ((bundle .skip).siblingAt .section 1 (badge "last")).result = .ok m := ⟨_, rfl⟩
  have hs : k.Renders (bundle .skip) :=
    ⟨List.forall_mem_cons.mpr ⟨hempty, List.forall_mem_singleton.mpr hunknown⟩,
      ⟨nofun, trivial, List.forall_mem_singleton.mpr hlast⟩, nofun⟩
  obtain ⟨shown, hshown, hprint⟩ : ∃ shown, ((bundle .skip).renderAt (.under .section 0) (badge "<b>")).result =
      .ok shown ∧ shown.print = "<span class=\"anti-badge anti-badge--neutral anti-badge--l\">&lt;b&gt;</span>" :=
    ⟨_, rfl, by decide +kernel⟩
  rw [← hprint]
  exact render_plug.1 .skip k hs (badge "<b>") shown hshown (by rw [hprint]; decide)

end Context
end DesignKit
