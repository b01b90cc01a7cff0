import DesignKit.Render
import DesignKit.Stylesheet

/-! # Intro

An eyebrow, a title and a subtitle. With an eyebrow the eyebrow is the heading and the title a paragraph;
without one the title is the heading. An intro without any of the three is empty. -/

namespace DesignKit.Intro
open Helper Markup
open Stylesheet (tall short)

/-- The schema of the component. -/
def schema : Schema where
  name := "intro"
  label := "Intro"
  category := some "Content"
  description := some "Eyebrow, title and subtitle block; renders only the parts with content."
  fields := [
    .declared "eyebrow" "text" "Eyebrow" (.text ""),
    .declared "title" "text" "Title" (.text ""),
    .declared "subtitle" "textarea" "Subtitle" (.text ""),
    .declared "align" "select" "Alignment" (.text "center"),
    .declared "size" "select" "Size" (.text "m")]
  children := none

/-- The layout attributes of an intro. -/
def layoutEntries (props : Members) : List (String × Value) :=
  let align := (props.get "align").orElse (.text "center")
  [("data-align", if align.same (.text "inherit") then .null else align),
    ("data-size", (props.get "size").orElse (.text "m"))]

/-- The markup of an intro. -/
def template : Template := fun _ props => do
  let eyebrow := props.get "eyebrow"
  let title := props.get "title"
  let subtitle := props.get "subtitle"
  if eyebrow.truthy || title.truthy || subtitle.truthy then
    let titleTag := if eyebrow.truthy then "p" else "h2"
    let items := .classed "anti-intro" :: attributeItems (layoutEntries props) ++ editable props
    return [block 0 "div" items
      (given eyebrow.truthy (line 4 (.element "h2" [.classed "anti-intro__eyebrow"] [.ofValue eyebrow])) ++
        given title.truthy (line 4 (.element titleTag [.classed "anti-intro__title"] [.ofValue title])) ++
        given subtitle.truthy (line 4 (.element "p" [.classed "anti-intro__subtitle"] [.ofValue subtitle])))]
  else return []

/-- The rules that every style variant of the component shares. -/
def baseStyle : Stylesheet := [
  [tall [".anti-intro"]
      [("display", "flex"), ("flex-direction", "column"), ("gap", "var(--space-s)")]],
  [short [".anti-intro[data-align=\"left\"]"]
      [("text-align", "left")],
    short [".anti-intro[data-align=\"center\"]"]
      [("text-align", "center")],
    short [".anti-intro[data-align=\"right\"]"]
      [("text-align", "right")]],
  [tall [".anti-intro__eyebrow", ".anti-intro__title", ".anti-intro__subtitle"]
      [("margin", "0")]],
  [short [".anti-intro[data-size=\"s\"] .anti-intro__title"]
      [("font-size", "var(--heading-4)")],
    short [".anti-intro[data-size=\"m\"] .anti-intro__title"]
      [("font-size", "var(--heading-3)")],
    short [".anti-intro[data-size=\"l\"] .anti-intro__title"]
      [("font-size", "var(--heading-1)")]]]

/-- The rules of the style variant `plato`. -/
def platoStyle : Stylesheet := [
  [tall [".anti-intro__eyebrow"]
      [("font-size", "var(--text-s)"), ("font-weight", "600"), ("letter-spacing", "0.08em"),
        ("text-transform", "uppercase"), ("color", "var(--primary)")]],
  [tall [".anti-intro__title"]
      [("font-weight", "var(--heading-1-weight, 700)"), ("line-height", "var(--heading-1-line-height, 1.2)")]],
  [tall [".anti-intro__subtitle"]
      [("font-size", "var(--text-l)"), ("opacity", "0.8")]]]

end DesignKit.Intro
