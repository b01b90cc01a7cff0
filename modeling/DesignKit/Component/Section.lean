import DesignKit.Render
import DesignKit.Stylesheet

/-! # Section

A wrapper at the root of a page that gives its children a colorway and spacing. -/

namespace DesignKit.Section
open Helper Markup
open Stylesheet (tall short)

/-- The schema of the component. -/
def schema : Schema where
  name := "section"
  label := "Section"
  category := some "Layout"
  description := some "Root-level wrapper that applies a colorway and spacing to its children."
  fields := [
    .declared "colorway" "colorway" "Colorway" (.text "default"),
    .declared "padding_top" "select" "Padding top" (.text "xxl"),
    .declared "padding_bottom" "select" "Padding bottom" (.text "xxl"),
    .declared "gap" "select" "Gap" (.text "l"),
    .declared "children" "children" "Children" (.list [])]
  children := some [
    ⟨[("size", .text "l")], some "intro"⟩,
    ⟨[("layout", .text "grid"), ("columns", .text "3")], some "container"⟩]

/-- The layout attributes of a section. -/
def layoutEntries (props : Members) : List (String × Value) :=
  let colorway := props.get "colorway"
  let spacing (key : String) : Value :=
    let v := (props.get key).orElse (.text "none")
    if v.same (.text "none") then .bool false else v
  [("data-colorway", if colorway.truthy && !colorway.same (.text "inherit") then colorway else .bool false),
    ("data-padding-top", spacing "padding_top"), ("data-padding-bottom", spacing "padding_bottom"),
    ("data-gap", spacing "gap")]

/-- The markup of a section. -/
def template : Template := fun composition props => do
  let content ← composition.children (props.get "children") (.named "section")
  let items := .classed "anti-section" :: editable props ++ attributeItems (layoutEntries props)
  return [block 0 "section" items
    (blockLine 4 "div" [.classed "anti-section__inner"] (content ++ [newline]))]

/-- The rules that every style variant of the component shares. -/
def baseStyle : Stylesheet := [
  [short [".anti-section[data-padding-top=\"xxs\"]"]
      [("padding-top", "var(--space-xxs)")],
    short [".anti-section[data-padding-top=\"xs\"]"]
      [("padding-top", "var(--space-xs)")],
    short [".anti-section[data-padding-top=\"s\"]"]
      [("padding-top", "var(--space-s)")],
    short [".anti-section[data-padding-top=\"m\"]"]
      [("padding-top", "var(--space-m)")],
    short [".anti-section[data-padding-top=\"l\"]"]
      [("padding-top", "var(--space-l)")],
    short [".anti-section[data-padding-top=\"xl\"]"]
      [("padding-top", "var(--space-xl)")],
    short [".anti-section[data-padding-top=\"xxl\"]"]
      [("padding-top", "var(--space-xxl)")]],
  [short [".anti-section[data-padding-bottom=\"xxs\"]"]
      [("padding-bottom", "var(--space-xxs)")],
    short [".anti-section[data-padding-bottom=\"xs\"]"]
      [("padding-bottom", "var(--space-xs)")],
    short [".anti-section[data-padding-bottom=\"s\"]"]
      [("padding-bottom", "var(--space-s)")],
    short [".anti-section[data-padding-bottom=\"m\"]"]
      [("padding-bottom", "var(--space-m)")],
    short [".anti-section[data-padding-bottom=\"l\"]"]
      [("padding-bottom", "var(--space-l)")],
    short [".anti-section[data-padding-bottom=\"xl\"]"]
      [("padding-bottom", "var(--space-xl)")],
    short [".anti-section[data-padding-bottom=\"xxl\"]"]
      [("padding-bottom", "var(--space-xxl)")]],
  [tall [".anti-section__inner"]
      [("display", "flex"), ("flex-direction", "column"), ("max-width", "72rem"), ("margin", "0 auto"),
        ("padding", "0 var(--space-m)")]],
  [short [".anti-section[data-gap=\"xxs\"] .anti-section__inner"]
      [("gap", "var(--space-xxs)")],
    short [".anti-section[data-gap=\"xs\"] .anti-section__inner"]
      [("gap", "var(--space-xs)")],
    short [".anti-section[data-gap=\"s\"] .anti-section__inner"]
      [("gap", "var(--space-s)")],
    short [".anti-section[data-gap=\"m\"] .anti-section__inner"]
      [("gap", "var(--space-m)")],
    short [".anti-section[data-gap=\"l\"] .anti-section__inner"]
      [("gap", "var(--space-l)")],
    short [".anti-section[data-gap=\"xl\"] .anti-section__inner"]
      [("gap", "var(--space-xl)")],
    short [".anti-section[data-gap=\"xxl\"] .anti-section__inner"]
      [("gap", "var(--space-xxl)")]]]

/-- The rules of the style variant `plato`. -/
def platoStyle : Stylesheet := [
  [tall [".anti-section"]
      [("background-color", "var(--colorway-background)"), ("color", "var(--colorway-foreground)")]]]

end DesignKit.Section
