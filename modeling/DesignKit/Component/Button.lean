import DesignKit.Render
import DesignKit.Stylesheet

/-! # Button

A call to action: a link when it has a URL, a button otherwise. The colorway `inherit` leaves the palette of
the parent in place. -/

namespace DesignKit.Button
open Helper Markup
open Stylesheet (tall short)

/-- The schema of the component. -/
def schema : Schema where
  name := "button"
  label := "Button"
  category := some "Actions"
  description := some "Call-to-action rendered as a link when a URL is given."
  fields := [
    .declared "text" "text" "Text" (.text "Click me"),
    .declared "url" "url" "URL" (.text ""),
    .declared "variant" "select" "Variant" (.text "solid"),
    .declared "size" "select" "Size" (.text "m"),
    .declared "full_width" "toggle" "Full width" (.bool false),
    .declared "shadow" "toggle" "Shadow" (.bool false),
    .declared "colorway" "colorway" "Colorway" (.text "inherit")]
  children := none

/-- The class names of a button. -/
def classNames (props : Members) : Except Fault String :=
  let variant := (props.get "variant").orElse (.text "solid")
  let size := (props.get "size").orElse (.text "m")
  classes [named "anti-button" true, named ("anti-button--" ++ variant.print) true,
    named ("anti-button--" ++ size.print) true,
    named "anti-button--full-width" (flag (props.get "full_width")),
    named "anti-button--shadow" (flag (props.get "shadow"))]

/-- The markup of a button. -/
def template : Template := fun _ props => do
  let url := props.get "url"
  let css ← classNames props
  let items := .classed css :: colorway ((props.get "colorway").orElse (.text "inherit")) ++ editable props
  let content : Markup := line 4 (.ofValue (props.getD "text" (.text "")))
  if url.truthy then return [block 0 "a" (.valued "href" url :: items) content]
  else return [block 0 "button" (.attr "type" "button" :: items) content]

/-- The rules that every style variant of the component shares. -/
def baseStyle : Stylesheet := [
  [tall [".anti-button"]
      [("display", "inline-flex"), ("align-items", "center"), ("justify-content", "center"),
        ("gap", "var(--space-xs)"), ("border", "var(--border-m, 2px) solid transparent"), ("font", "inherit"),
          ("font-weight", "600"), ("text-decoration", "none"), ("cursor", "pointer")]],
  [short [".anti-button--s"]
      [("padding", "var(--space-xs) var(--space-s)"), ("font-size", "var(--text-s)")],
    short [".anti-button--m"]
      [("padding", "var(--space-s) var(--space-m)"), ("font-size", "var(--text-m)")],
    short [".anti-button--l"]
      [("padding", "var(--space-m) var(--space-l)"), ("font-size", "var(--text-l)")]],
  [tall [".anti-button--full-width"]
      [("display", "flex"), ("width", "100%")]]]

/-- The rules of the style variant `plato`. -/
def platoStyle : Stylesheet := [
  [tall [".anti-button"]
      [("border-radius", "var(--radius-m)"), ("transition", "background-color 0.15s ease, color 0.15s ease")]],
  [tall [".anti-button--solid"]
      [("background", "var(--colorway-foreground, var(--primary))"), ("color", "var(--colorway-background, #fff)")]],
  [tall [".anti-button--outline"]
      [("background", "transparent"), ("border-color", "currentColor"),
        ("color", "var(--colorway-foreground, var(--primary))")]],
  [tall [".anti-button--ghost"]
      [("background", "transparent"), ("color", "var(--colorway-foreground, var(--primary))")]],
  [tall [".anti-button--shadow"]
      [("box-shadow", "var(--shadow-m)")]]]

end DesignKit.Button
