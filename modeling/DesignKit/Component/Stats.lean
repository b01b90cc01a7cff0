import DesignKit.Render
import DesignKit.Stylesheet

/-! # Stats

A number with what stands before and behind it, and a label. -/

namespace DesignKit.Stats
open Helper Markup
open Stylesheet (tall short)

/-- The schema of the component. -/
def schema : Schema where
  name := "stats"
  label := "Stats"
  category := some "Content"
  description := some "Numerical metric with a label."
  fields := [
    .declared "value" "text" "Value" (.text "500"),
    .declared "label" "text" "Label" (.text "Happy Customers"),
    .declared "prefix" "text" "Prefix" (.text ""),
    .declared "suffix" "text" "Suffix" (.text "+"),
    .declared "description" "textarea" "Description" (.text ""),
    .declared "colorway" "colorway" "Colorway" (.text "inherit")]
  children := none

/-- The line of what stands beside the number. -/
def affixLine (props : Members) (key names : String) : Markup :=
  given (props.get key).truthy (line 8 (.element "span" [.classed names] [.ofValue (props.get key)]))

/-- The markup of a number. -/
def template : Template := fun _ props => do
  let description := props.get "description"
  let items := .classed "anti-stats" :: editable props ++
    colorway ((props.get "colorway").orElse (.text "inherit"))
  return [block 0 "div" items
    (blockLine 4 "div" [.classed "anti-stats__value"]
        (affixLine props "prefix" "anti-stats__prefix" ++
          line 8 (.element "span" [.classed "anti-stats__number"] [.ofValue (props.getD "value" (.text ""))]) ++
          affixLine props "suffix" "anti-stats__suffix") ++
      line 4 (.element "div" [.classed "anti-stats__label"] [.ofValue (props.getD "label" (.text ""))]) ++
      given description.truthy
        (line 4 (.element "p" [.classed "anti-stats__description"] [.ofValue description])))]

/-- The rules that every style variant of the component shares. -/
def baseStyle : Stylesheet := [
  [tall [".anti-stats"]
      [("display", "flex"), ("flex-direction", "column"), ("gap", "var(--space-xs)")]],
  [tall [".anti-stats__value"]
      [("display", "flex"), ("align-items", "baseline"), ("gap", "var(--space-xxs)"),
        ("font-size", "var(--heading-1)"), ("line-height", "1")]],
  [tall [".anti-stats__description"]
      [("margin", "0")]]]

/-- The rules of the style variant `plato`. -/
def platoStyle : Stylesheet := [
  [tall [".anti-stats__value"]
      [("font-weight", "700"), ("color", "var(--colorway-foreground, var(--primary))")]],
  [tall [".anti-stats__label"]
      [("font-weight", "600")]],
  [tall [".anti-stats__description"]
      [("font-size", "var(--text-s)"), ("opacity", "0.7")]]]

end DesignKit.Stats
