import DesignKit.Proofs.ClassList
import DesignKit.Proofs.Precedence
import DesignKit.Proofs.Wrapper
import Mathlib.Data.List.Forall2

/-! # What a hero shows of its children

A hero goes through its children with a selection in hand: the first intro stays, and buttons with a text are
added as long as there are less than two. What it writes are those alone, between a part above and a part below
that do not depend on the children. -/

namespace DesignKit.Hero
open Helper Markup

/-- A child is an object that gives a node: its type is a text and its props are an object, or missing. -/
def IsNode (child : Value) (node : Invocation) : Prop :=
  ∃ m : Members, child = .object m ∧ m.get? "type" = some (.text node.type) ∧
    (m.get "props").orElse (.object []) = .object node.props

/-- The bag of the child at an index: its props written onto what the slot at the index declares, and the index. -/
def slotBag (hero : Schema) (node : Invocation) (index : Nat) : Members :=
  (Members.ofEntries (hero.place index node.props)).set Composition.indexKey (.int index)

/-- The bags of the children of a type from an index on. -/
def bagsOf (hero : Schema) (type : String) (nodes : List Invocation) (index : Nat) : List Members :=
  ((nodes.zipIdx index).filter fun e => e.1.type == type).map fun e => slotBag hero e.1 e.2

/-- The bags of the buttons with a text from an index on. -/
def labelled (hero : Schema) (nodes : List Invocation) (index : Nat) : List Members :=
  (bagsOf hero "button" nodes index).filter fun bag => (bag.get "text").truthy

theorem bagsOf_cons (hero : Schema) (type : String) (node : Invocation) (rest : List Invocation) (index : Nat) :
    bagsOf hero type (node :: rest) index =
      if node.type = type then slotBag hero node index :: bagsOf hero type rest (index + 1)
      else bagsOf hero type rest (index + 1) := by
  by_cases h : node.type = type <;> simp [bagsOf, h]

/-! ### Selection -/

/-- A selection with what further children add to it: the first intro, unless there is one already, and as many of
the buttons as are missing to two. -/
def Selection.extend (s : Selection) (intros buttons : List Members) : Selection where
  intro := s.intro.or intros.head?
  buttons := s.buttons ++ buttons.take (2 - s.buttons.length)

theorem Selection.extend_add_intro (s : Selection) (bag : Members) (intros buttons : List Members) :
    (s.add (.text "intro") bag).extend intros buttons = s.extend (bag :: intros) buttons := by
  obtain ⟨intro, chosen⟩ := s
  cases intro <;> simp [Selection.add, Selection.extend, Value.same]

theorem Selection.extend_add_button (s : Selection) (bag : Members) (intros buttons : List Members) :
    (s.add (.text "button") bag).extend intros buttons =
      s.extend intros (if (bag.get "text").truthy then bag :: buttons else buttons) := by
  obtain ⟨intro, chosen⟩ := s
  by_cases htext : (bag.get "text").truthy = true
  · by_cases hroom : chosen.length < 2
    · obtain ⟨n, hn⟩ : ∃ n, 2 - chosen.length = n + 1 := ⟨1 - chosen.length, by omega⟩
      have hrest : 2 - (chosen.length + 1) = n := by omega
      simp [Selection.add, Selection.extend, Value.same, htext, hroom, hn, hrest]
    · have hfull : 2 - chosen.length = 0 := by omega
      simp [Selection.add, Selection.extend, Value.same, htext, hroom, hfull]
  · simp [Selection.add, Selection.extend, Value.same, htext]

theorem Selection.add_other (s : Selection) {type : String} (hintro : type ≠ "intro") (hbutton : type ≠ "button")
    (bag : Members) : s.add (.text type) bag = s := by
  simp [Selection.add, Value.same, hintro, hbutton]

variable {c : Composition} {hero : Schema}

/-- The selection that a walk over nodes ends with. -/
theorem select_eq {children : List Value} {nodes : List Invocation} (hn : List.Forall₂ IsNode children nodes)
    (ht : ∀ node ∈ nodes, c.isRegistered node.type = true) (index : Nat) (s : Selection) :
    select c hero index children s =
      pure (s.extend (bagsOf hero "intro" nodes index) (labelled hero nodes index)) := by
  induction hn generalizing index s with
  | nil => simp [select, Selection.extend, bagsOf, labelled]
  | @cons child node children nodes hchild _ ih =>
    obtain ⟨hnode, hrest⟩ := List.forall_mem_cons.mp ht
    obtain ⟨m, rfl, htype, hprops⟩ := hchild
    have hbag : childBag hero index ((part? (.object m) "props").getD .null) = .ok (slotBag hero node index) :=
      childBag_object hero index hprops
    simp only [select, show part? (.object m) "type" = some (.text node.type) from htype,
      Composition.admits_of_isRegistered hnode, pure_bind, if_pos, hbag, Render.monadLift_eq, Render.lift_ok,
      Option.getD_some, ih hrest]
    -- A child counts as what its type says, and most types do not count.
    by_cases hintro : node.type = "intro"
    · simp [hintro, Selection.extend_add_intro, bagsOf_cons, labelled]
    · by_cases hbutton : node.type = "button"
      · simp [hbutton, Selection.extend_add_button, bagsOf_cons, labelled, List.filter_cons]
      · simp [hintro, hbutton, Selection.add_other, bagsOf_cons, labelled]

/-! ### Components that are shown -/

/-- The markup of a component of a type with a bag. -/
def Renders (c : Composition) (type : String) (bag : Members) (m : Markup) : Prop :=
  (c.component (.text type) (.object bag)).result = .ok m

/-- Markup of components, each followed by a line break. -/
def stacked (ms : List Markup) : Markup :=
  ms.flatMap fun m => [.embedded m, newline]

/-- The bags that buttons are rendered with: all have the size that the hero gives, and the first casts a shadow. -/
def buttonBags (size : String) : Bool → List Members → List Members
  | _, [] => []
  | isFirst, bag :: rest => buttonBag size isFirst bag :: buttonBags size false rest

theorem introLines_eq_ok {intro : Option Members} {lines : Markup} : (introLines c intro).result = .ok lines ↔
    ∃ ms, List.Forall₂ (Renders c "intro") intro.toList ms ∧ lines = stacked ms := by
  cases intro with
  | none =>
    constructor
    · intro h
      cases h
      exact ⟨[], .nil, rfl⟩
    · rintro ⟨_, ⟨⟩, rfl⟩
      rfl
  | some bag =>
    rw [introLines, Render.bind_eq_ok]
    constructor
    · rintro ⟨m, hm, h⟩
      cases h
      exact ⟨[m], .cons hm .nil, rfl⟩
    · rintro ⟨_, ⟨⟩ | ⟨hm, ⟨⟩⟩, rfl⟩
      exact ⟨_, hm, rfl⟩

theorem buttonLines_eq_ok {size : String} {isFirst : Bool} {bags : List Members} {lines : Markup} :
    (buttonLines c size isFirst bags).result = .ok lines ↔
      ∃ ms, List.Forall₂ (Renders c "button") (buttonBags size isFirst bags) ms ∧ lines = stacked ms := by
  induction bags generalizing isFirst lines with
  | nil =>
    constructor
    · intro h
      cases h
      exact ⟨[], .nil, rfl⟩
    · rintro ⟨_, ⟨⟩, rfl⟩
      rfl
  | cons bag rest ih =>
    rw [buttonLines, Render.bind_eq_ok]
    constructor
    · rintro ⟨m, hm, h⟩
      obtain ⟨others, hothers, h⟩ := Render.bind_eq_ok.mp h
      obtain ⟨ms, hms, rfl⟩ := ih.mp hothers
      cases h
      exact ⟨m :: ms, .cons hm hms, rfl⟩
    · rintro ⟨_, ⟨⟩ | ⟨hm, hms⟩, rfl⟩
      exact ⟨_, hm, Render.bind_eq_ok.mpr ⟨_, ih.mpr ⟨_, hms, rfl⟩, rfl⟩⟩

/-! ### The whole hero -/

/-- The conditions of the classes of a hero. -/
def classConditions (props : Members) : List (String × Bool) :=
  [("anti-hero", true),
    ("anti-hero--" ++ ((props.get "alignment").orElse (.text "center")).print, true),
    ("anti-hero--" ++ ((props.get "size").orElse (.text "lg")).print, true),
    ("anti-hero--has-bg", (props.get "background_image").truthy)]

/-- The class list of a hero. -/
def heroClasses (props : Members) : String :=
  " ".intercalate (chosen (classConditions props))

theorem classNames_eq (props : Members) : classNames props = .ok (heroClasses props) :=
  classes_named (classConditions props)

/-- What stands in the opening tag. -/
def tagItems (props : Members) : List Item :=
  let colorway := props.get "colorway"
  let image := props.get "background_image"
  .classed (heroClasses props) :: editable props ++
    Item.given (colorway.truthy && !colorway.same (.text "inherit")) (.valued "data-colorway" colorway) ++
    Item.given image.truthy (.attr "style" ("background-image: url(" ++ image.print ++ ");"))

/-- The block of buttons, which is there when there are any. -/
def actionBlock (buttons : List Markup) : Markup :=
  given (!buttons.isEmpty) (blockLine 12 "div" [.classed "anti-hero__actions"] (stacked buttons))

/-- The markup of a hero around what it shows. -/
def frame (props : Members) (intros buttons : List Markup) : Markup :=
  [block 0 "section" (tagItems props)
    (blockLine 4 "div" [.classed "anti-hero__container"]
      (blockLine 8 "div" [.classed "anti-hero__content"] (stacked intros ++ actionBlock buttons)))]

theorem isEmpty_buttons {size : String} {isFirst : Bool} {bags : List Members} {ms : List Markup}
    (h : List.Forall₂ (Renders c "button") (buttonBags size isFirst bags) ms) : ms.isEmpty = bags.isEmpty := by
  cases bags <;> cases h <;> rfl

/-- A hero comes to markup when what it shows does: the first intro, and the first two buttons with a text. -/
theorem template_eq_ok (hs : c.schema "hero" = .ok hero) {props : Members} {children : List Value}
    (hc : props.get "children" = .list children) {nodes : List Invocation} (hn : List.Forall₂ IsNode children nodes)
    (ht : ∀ node ∈ nodes, c.isRegistered node.type = true) {m : Markup} :
    (template c props).result = .ok m ↔ ∃ intros buttons,
      List.Forall₂ (Renders c "intro") ((bagsOf hero "intro" nodes 0).take 1) intros ∧
      List.Forall₂ (Renders c "button") (buttonBags (buttonSize props) true ((labelled hero nodes 0).take 2)) buttons ∧
      m = frame props intros buttons := by
  have hconsult : (c.consult "hero").result = .ok hero := by
    rw [Composition.consult, hs]
    rfl
  have hitems : (props.get "children").orElse (.list []) = .list children := by
    rw [hc]
    cases children <;> rfl
  have hselect : select c hero 0 children ⟨none, []⟩ =
      pure ⟨(bagsOf hero "intro" nodes 0).head?, (labelled hero nodes 0).take 2⟩ := by
    rw [select_eq hn ht]
    rfl
  have htake : (bagsOf hero "intro" nodes 0).head?.toList = (bagsOf hero "intro" nodes 0).take 1 := by
    cases bagsOf hero "intro" nodes 0 <;> rfl
  unfold template
  simp only [Render.bind_eq_ok, hitems]
  -- The walk over the children and the class list always come to something; what is left are the components shown.
  constructor
  · rintro ⟨_, hfound, _, hchildren, _, hchosen, css, hcss, intro, hintro, lines, hlines, h⟩
    obtain rfl := Except.ok.inj (hconsult.symm.trans hfound)
    cases hchildren
    rw [hselect] at hchosen
    cases hchosen
    obtain rfl := Except.ok.inj ((classNames_eq props).symm.trans hcss)
    cases h
    obtain ⟨intros, hintros, rfl⟩ := introLines_eq_ok.mp hintro
    obtain ⟨buttons, hbuttons, rfl⟩ := buttonLines_eq_ok.mp hlines
    refine ⟨intros, buttons, htake ▸ hintros, hbuttons, ?_⟩
    rw [frame, actionBlock, isEmpty_buttons hbuttons]
    rfl
  · rintro ⟨intros, buttons, hintros, hbuttons, rfl⟩
    refine ⟨hero, hconsult, children, rfl, _, congrArg Render.result hselect, _, classNames_eq props, _,
      introLines_eq_ok.mpr ⟨intros, htake.symm ▸ hintros, rfl⟩, _, buttonLines_eq_ok.mpr ⟨buttons, hbuttons, rfl⟩, ?_⟩
    rw [frame, actionBlock, isEmpty_buttons hbuttons]
    rfl

/-! ### The text of a hero -/

/-- The text above what a hero shows. -/
def opening (props : Members) : String :=
  "<section" ++ String.ofList ((tagItems props).flatMap Item.chars) ++
    ">\n    <div class=\"anti-hero__container\">\n        <div class=\"anti-hero__content\">\n"

/-- The text below what a hero shows. -/
def closing : String :=
  "        </div>\n    </div>\n</section>"

/-- The texts of components, each followed by a line break. -/
def stackedText (ms : List Markup) : String :=
  String.join (ms.map fun m => m.print ++ "\n")

/-- The text of the block of buttons. -/
def actions (buttons : List Markup) : String :=
  if buttons.isEmpty then ""
  else "            <div class=\"anti-hero__actions\">\n" ++ stackedText buttons ++ "            </div>\n"

theorem print_stacked (ms : List Markup) : (stacked ms).print = stackedText ms := by
  induction ms with
  | nil => rfl
  | cons m rest ih =>
    have hcons : stackedText (m :: rest) = m.print ++ ("\n" ++ stackedText rest) := by
      rw [stackedText, List.map_cons, String.join_cons, String.append_assoc, stackedText]
    show print (.embedded m :: newline :: stacked rest) = _
    rw [print_cons_embedded, print_cons_newline, ih, hcons]

theorem chars_stacked (ms : List Markup) : chars (stacked ms) = (stackedText ms).toList := by
  rw [← print_stacked, print, String.toList_ofList]

theorem chars_actionBlock (buttons : List Markup) : chars (actionBlock buttons) = (actions buttons).toList := by
  have htag : (Item.classed "anti-hero__actions").chars = " class=\"anti-hero__actions\"".toList := by decide
  cases hbuttons : buttons.isEmpty <;>
    simp [actionBlock, actions, hbuttons, given, chars, Node.chars, block, blockLine, line, chars_newline, chars_pad, chars_stacked, htag,
      List.replicate]

theorem print_frame (props : Members) (intros buttons : List Markup) : (frame props intros buttons).print =
    opening props ++ stackedText intros ++ actions buttons ++ closing := by
  have hcontainer : (Item.classed "anti-hero__container").chars = " class=\"anti-hero__container\"".toList := by decide
  have hcontent : (Item.classed "anti-hero__content").chars = " class=\"anti-hero__content\"".toList := by decide
  rw [← String.toList_inj]
  simp [frame, opening, closing, print, chars, Node.chars, block, line, blockLine,
      chars_newline, chars_pad, chars_stacked, chars_actionBlock, hcontainer, hcontent, List.replicate]

/-- The opening tag reads every prop but the children. -/
theorem opening_congr {p q : Members} (h : ∀ key, key ≠ "children" → p.get? key = q.get? key) :
    opening p = opening q := by
  have hget : ∀ key, key ≠ "children" → p.get key = q.get key := fun key hkey => by
    rw [Members.get, Members.get, h key hkey]
  have hitems : tagItems p = tagItems q := by
    simp [tagItems, heroClasses, classConditions, editable, hget]
  rw [opening, opening, hitems]

/-- A hero shows the first of its intros and the first two of its buttons that have a text under the slots of the
hero, and nothing of any other child: the buttons in their size, the first one with a shadow and the second one with
what it says about that, in a block that is there when there are buttons. It can be rendered when these can be. -/
theorem selection_of_component {r : Renderer} {name : String} (hr : r.registry.find? name = some (.bundled .hero))
    {hero : Schema} (hs : r.schema "hero" = .ok hero) {levels : Nat} {props : Value} {bag : Members}
    (hbag : (r.fill name props).result = .ok bag) {children : List Value} (hc : bag.get "children" = .list children)
    {nodes : List Invocation} (hn : List.Forall₂ IsNode children nodes)
    (ht : ∀ node ∈ nodes, (r.registry.find? node.type).isSome = true) :
    (∀ html, (∃ m, (r.component (levels + 1) (.text name) props).result = .ok m ∧ m.print = html) ↔
      ∃ intros buttons,
        List.Forall₂ (Renders (r.composition (r.component levels)) "intro")
          ((bagsOf hero "intro" nodes 0).take 1) intros ∧
        List.Forall₂ (Renders (r.composition (r.component levels)) "button")
          (buttonBags (buttonSize bag) true ((labelled hero nodes 0).take 2)) buttons ∧
        html = opening bag ++ stackedText intros ++ actions buttons ++ closing) ∧
    ∀ changed : Members, (∀ key, key ≠ "children" → changed.get? key = bag.get? key) → opening changed = opening bag := by
  refine ⟨fun html => ?_, fun changed h => opening_congr h⟩
  simp only [Renderer.result_component hr hbag]
  constructor
  · rintro ⟨m, hm, rfl⟩
    obtain ⟨intros, buttons, hintros, hbuttons, rfl⟩ := (template_eq_ok hs hc hn ht).mp hm
    exact ⟨intros, buttons, hintros, hbuttons, print_frame bag intros buttons⟩
  · rintro ⟨intros, buttons, hintros, hbuttons, rfl⟩
    exact ⟨_, (template_eq_ok hs hc hn ht).mpr ⟨intros, buttons, hintros, hbuttons, rfl⟩,
      print_frame bag intros buttons⟩

/-- The child that gives a node. -/
def child (node : Invocation) : Value :=
  .object [("type", .text node.type), ("props", .object node.props)]

theorem isNode_child (node : Invocation) : IsNode (child node) node :=
  ⟨_, rfl, rfl, Value.orElse_object node.props⟩

/-- Children of a hero that shows an intro, a button with a text of its own and one with that of its slot. -/
def mixedNodes : List Invocation :=
  [⟨"badge", []⟩, ⟨"button", [("text", .text "")]⟩, ⟨"button", []⟩, ⟨"intro", [("title", .text "A")]⟩, ⟨"button", []⟩,
    ⟨"intro", [("title", .text "B")]⟩, ⟨"button", [("text", .text "Go"), ("shadow", .bool true)]⟩,
    ⟨"button", [("text", .text "Late")]⟩]

theorem selection_of_component_mixed :
    ∃ m, ((Renderer.bundle .refuse).component 3 (.text "hero")
        (.object [("size", .text "sm"), ("children", .list (mixedNodes.map child))])).result = .ok m ∧
      ∃ intro first second,
        Renders ((Renderer.bundle .refuse).composition ((Renderer.bundle .refuse).component 2)) "intro"
          (slotBag schema ⟨"intro", [("title", .text "A")]⟩ 3) intro ∧
        Renders ((Renderer.bundle .refuse).composition ((Renderer.bundle .refuse).component 2)) "button"
          (buttonBag "m" true (slotBag schema ⟨"button", []⟩ 2)) first ∧
        Renders ((Renderer.bundle .refuse).composition ((Renderer.bundle .refuse).component 2)) "button"
          (buttonBag "m" false (slotBag schema ⟨"button", [("text", .text "Go"), ("shadow", .bool true)]⟩ 6)) second ∧
        m.print = opening (schema.handed [("size", .text "sm")]) ++ stackedText [intro] ++ actions [first, second] ++
          closing := by
  refine exists_ok (by decide +kernel) fun m hm => ?_
  have hbag : ((Renderer.bundle .refuse).fill "hero" (.object [("size", .text "sm"),
      ("children", .list (mixedNodes.map child))])).result =
      .ok (schema.handed [("size", .text "sm"), ("children", .list (mixedNodes.map child))]) := rfl
  have hschema : (Renderer.bundle .refuse).schema "hero" = .ok schema := rfl
  obtain ⟨hshows, hopening⟩ := selection_of_component (r := Renderer.bundle .refuse) rfl hschema hbag rfl
    (List.forall₂_map_left_iff.mpr (List.forall₂_same.mpr fun node _ => isNode_child node)) (by decide)
  obtain ⟨intros, buttons, hintros, hbuttons, hprint⟩ := (hshows m.print).mp ⟨m, hm, rfl⟩
  obtain ⟨intro, _, hintro, hnone, rfl⟩ := List.forall₂_cons_left_iff.mp hintros
  rw [List.forall₂_nil_left_iff.mp hnone] at hprint
  obtain ⟨first, _, hfirst, hothers, rfl⟩ := List.forall₂_cons_left_iff.mp hbuttons
  obtain ⟨second, _, hsecond, hnone, rfl⟩ := List.forall₂_cons_left_iff.mp hothers
  rw [List.forall₂_nil_left_iff.mp hnone] at hprint
  rw [← hopening (schema.handed [("size", .text "sm")]) fun key hkey => ?_] at hprint
  · exact ⟨intro, first, second, hintro, hfirst, hsecond, hprint⟩
  · rw [Schema.get?_handed schema (by decide), Schema.get?_handed schema (by decide), Members.get?_cons, Members.get?_cons,
      Members.get?_cons, if_neg hkey]

end DesignKit.Hero
