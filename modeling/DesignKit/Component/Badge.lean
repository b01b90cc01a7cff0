import DesignKit.Render
import DesignKit.Stylesheet

/-! # Badge

An inline label for a status, a category or a count. Without a text there is no badge. -/

namespace DesignKit.Badge
open Helper Markup
open Stylesheet (tall short)

/-- The schema of the component. -/
def schema : Schema where
  name := "badge"
  label := "Badge"
  category := some "Content"
  description := some "Inline label for status, category, or count display."
  fields := [
    .declared "text" "text" "Text" (.text ""),
    .declared "variant" "select" "Variant" (.text "neutral"),
    .declared "size" "select" "Size" (.text "m"),
    .declared "class" "text" "Extra classes" (.text "")]
  children := none

/-- The class names of a badge. -/
def classNames (props : Members) : Except Fault String :=
  let variant := (props.get "variant").orElse (.text "neutral")
  let size := (props.get "size").orElse (.text "m")
  let extra := (props.get "class").orElse (.text "")
  classes [named "anti-badge" true, named ("anti-badge--" ++ variant.print) true,
    named ("anti-badge--" ++ size.print) true, (extra, extra)]

/-- The markup of a badge. -/
def template : Template := fun _ props => do
  let text := props.get "text"
  if text.truthy then
    let css ← classNames props
    return [.element "span" (.classed css :: editable props) [.ofValue text]]
  else return []

/-- The rules that every style variant of the component shares. -/
def baseStyle : Stylesheet := [
  [tall [".anti-badge"]
      [("display", "inline-flex"), ("align-items", "center"), ("line-height", "1"), ("white-space", "nowrap"),
        ("font-weight", "600")]],
  [tall [".anti-badge--s"]
      [("padding", "var(--space-xxs) var(--space-xs)"), ("font-size", "var(--text-xs)")]],
  [tall [".anti-badge--m"]
      [("padding", "var(--space-xs) var(--space-s)"), ("font-size", "var(--text-s)")]]]

/-- The rules of the style variant `plato`. -/
def platoStyle : Stylesheet := [
  [tall [".anti-badge"]
      [("border-radius", "var(--radius-full, 999px)")]],
  [short [".anti-badge--neutral"]
      [("background", "var(--neutral-light, #e5e7eb)"), ("color", "var(--neutral-dark, #374151)")],
    short [".anti-badge--success"]
      [("background", "var(--success-light, #dcfce7)"), ("color", "var(--success-dark, #166534)")],
    short [".anti-badge--warning"]
      [("background", "var(--warning-light, #fef3c7)"), ("color", "var(--warning-dark, #92400e)")],
    short [".anti-badge--danger"]
      [("background", "var(--danger-light, #fee2e2)"), ("color", "var(--danger-dark, #991b1b)")],
    short [".anti-badge--info"]
      [("background", "var(--info-light, #dbeafe)"), ("color", "var(--info-dark, #1e40af)")]]]

end DesignKit.Badge
