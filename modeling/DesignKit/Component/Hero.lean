import DesignKit.Render
import DesignKit.Stylesheet

/-! # Hero

The header of a landing page. Of its children it shows the first intro and the first two buttons that have a
text, each with the defaults of the hero's slot at its own place. The buttons take the size of the hero, and
the first of them casts a shadow. -/

namespace DesignKit.Hero
open Helper Markup
open Stylesheet (tall short)

/-- The schema of the component. -/
def schema : Schema where
  name := "hero"
  label := "Hero"
  category := some "Sections"
  description := some "Prominent landing page header with an intro and up to two buttons."
  fields := [
    .declared "alignment" "select" "Alignment" (.text "center"),
    .declared "size" "select" "Size" (.text "lg"),
    .declared "background_image" "url" "Background image" (.text ""),
    .declared "colorway" "colorway" "Colorway" (.text "default"),
    .declared "children" "children" "Children" (.list [])]
  children := some [
    ⟨[("title", .text "Build something people want"), ("subtitle", .text ""), ("size", .text "l"), ("align", .text "inherit")], some "intro"⟩,
    ⟨[("text", .text "Get Started"), ("variant", .text "solid")], some "button"⟩,
    ⟨[("text", .text "Learn More"), ("variant", .text "outline")], some "button"⟩]

/-- What a hero shows of its children: the bags of an intro and of buttons. -/
structure Selection where
  intro : Option Members
  buttons : List Members

/-- The selection with one more child. -/
def Selection.add (s : Selection) (type : Value) (bag : Members) : Selection :=
  if type.same (.text "intro") && s.intro.isNone then { s with intro := some bag }
  else if type.same (.text "button") && (bag.get "text").truthy && s.buttons.length < 2 then
    { s with buttons := s.buttons ++ [bag] }
  else s

/-- The bag of a child at an index: its props under the hero's slot, and the index. -/
def childBag (parent : Schema) (index : Nat) (props : Value) : Except Fault Members := do
  let placed ← parent.placeValue index (props.orElse (.object []))
  return (← Members.ofValue placed).set Composition.indexKey (.int index)

/-- A member of a child, none when the child is no object or lacks it. -/
def part? (child : Value) (key : String) : Option Value :=
  child.members?.bind (·.get? key)

/-- The selection from children from an index on. -/
def select (c : Composition) (parent : Schema) : Nat → List Value → Selection → Render Selection
  | _, [], s => return s
  | index, child :: rest, s => do
    let type := part? child "type"
    if ← c.admits type (some (index : Int)) then
      let bag ← childBag parent index ((part? child "props").getD .null)
      select c parent (index + 1) rest (s.add (type.getD .null) bag)
    else select c parent (index + 1) rest s

/-- The bag of a shown button: the size given by the hero, and a shadow on the first one. -/
def buttonBag (size : String) (isFirst : Bool) (bag : Members) : Members :=
  (bag.set "size" (.text size)).set "shadow" (if isFirst then .bool true else bag.getD "shadow" (.bool false))

/-- The lines of buttons. -/
def buttonLines (c : Composition) (size : String) : Bool → List Members → Render Markup
  | _, [] => return []
  | isFirst, bag :: rest => do
    let m ← c.component (.text "button") (.object (buttonBag size isFirst bag))
    let others ← buttonLines c size false rest
    return .embedded m :: newline :: others

/-- The lines of the intro. -/
def introLines (c : Composition) : Option Members → Render Markup
  | none => return []
  | some bag => do
    let m ← c.component (.text "intro") (.object bag)
    return [.embedded m, newline]

/-- The class names of a hero. -/
def classNames (props : Members) : Except Fault String :=
  let alignment := (props.get "alignment").orElse (.text "center")
  let size := (props.get "size").orElse (.text "lg")
  classes [named "anti-hero" true, named ("anti-hero--" ++ alignment.print) true,
    named ("anti-hero--" ++ size.print) true, named "anti-hero--has-bg" (props.get "background_image").truthy]

/-- The size of a hero's buttons. -/
def buttonSize (props : Members) : String :=
  if ((props.get "size").orElse (.text "lg")).same (.text "sm") then "m" else "l"

/-- The markup of a hero. -/
def template : Template := fun composition props => do
  let colorway := props.get "colorway"
  let image := props.get "background_image"
  let parent ← composition.consult "hero"
  let children ← items ((props.get "children").orElse (.list []))
  let chosen ← select composition parent 0 children ⟨none, []⟩
  let css ← classNames props
  let intro ← introLines composition chosen.intro
  let buttons ← buttonLines composition (buttonSize props) true chosen.buttons
  let actions := given (!chosen.buttons.isEmpty) (blockLine 12 "div" [.classed "anti-hero__actions"]
    buttons)
  let items := .classed css :: editable props ++
    Item.given (colorway.truthy && !colorway.same (.text "inherit")) (.valued "data-colorway" colorway) ++
    Item.given image.truthy (.attr "style" ("background-image: url(" ++ image.print ++ ");"))
  return [block 0 "section" items
    (blockLine 4 "div" [.classed "anti-hero__container"]
      (blockLine 8 "div" [.classed "anti-hero__content"] (intro ++ actions)))]

/-- The rules that every style variant of the component shares. -/
def baseStyle : Stylesheet := [
  [tall [".anti-hero"]
      [("position", "relative"), ("background-size", "cover"), ("background-position", "center")]],
  [short [".anti-hero--sm"]
      [("padding", "var(--space-xl) var(--space-m)")],
    short [".anti-hero--md"]
      [("padding", "var(--space-xxl) var(--space-m)")],
    short [".anti-hero--lg"]
      [("padding", "calc(var(--space-xxl) * 1.5) var(--space-m)")]],
  [tall [".anti-hero__container"]
      [("max-width", "72rem"), ("margin", "0 auto")]],
  [tall [".anti-hero__content"]
      [("display", "flex"), ("flex-direction", "column"), ("gap", "var(--space-l)")]],
  [short [".anti-hero--left .anti-hero__content"]
      [("align-items", "flex-start"), ("text-align", "left")],
    short [".anti-hero--center .anti-hero__content"]
      [("align-items", "center"), ("text-align", "center")],
    short [".anti-hero--right .anti-hero__content"]
      [("align-items", "flex-end"), ("text-align", "right")]],
  [tall [".anti-hero__actions"]
      [("display", "flex"), ("flex-wrap", "wrap"), ("gap", "var(--space-s)")]]]

/-- The rules of the style variant `plato`. -/
def platoStyle : Stylesheet := [
  [tall [".anti-hero"]
      [("background-color", "var(--colorway-background)"), ("color", "var(--colorway-foreground)")]],
  [tall [".anti-hero--has-bg::before"]
      [("content", "\"\""), ("position", "absolute"), ("inset", "0"), ("background", "rgba(0, 0, 0, 0.4)")]],
  [tall [".anti-hero--has-bg .anti-hero__container"]
      [("position", "relative")]]]

end DesignKit.Hero
