import DesignKit.Render
import DesignKit.Stylesheet

/-! # FAQ

A question that opens to its answer. -/

namespace DesignKit.Faq
open Helper Markup
open Stylesheet (tall short)

/-- The schema of the component. -/
def schema : Schema where
  name := "faq"
  label := "FAQ"
  category := some "Content"
  description := some "Expandable question and answer using details/summary."
  fields := [
    .declared "question" "text" "Question" (.text "What is your return policy?"),
    .declared "answer" "textarea" "Answer" (.text "We offer a 30-day money-back guarantee on all purchases."),
    .declared "initially_open" "select" "Initially open" (.text "false"),
    .declared "variant" "select" "Variant" (.text "default")]
  children := none

/-- The arrow beside a question. -/
def arrow : Node :=
  block 8 "svg" [.classed "anti-faq__icon", .attr "width" "20", .attr "height" "20", .attr "viewBox" "0 0 20 20",
      .attr "fill" "none", .attr "aria-hidden" "true"]
    (line 12 (.void "path" [.attr "d" "M5 7.5L10 12.5L15 7.5", .attr "stroke" "currentColor",
      .attr "stroke-width" "2", .attr "stroke-linecap" "round", .attr "stroke-linejoin" "round"] .slash))

/-- The class names of a question. -/
def classNames (props : Members) : Except Fault String :=
  classes [named "anti-faq" true,
    named ("anti-faq--" ++ ((props.get "variant").orElse (.text "default")).print) true]

/-- The markup of a question with its answer. -/
def template : Template := fun _ props => do
  let css ← classNames props
  let items := .classed css :: editable props ++ Item.given (flag (props.get "initially_open")) (.flag "open")
  return [block 0 "details" items
    (blockLine 4 "summary" [.classed "anti-faq__question"]
        (line 8 (.element "span" [.classed "anti-faq__question-text"]
            [.ofValue (props.getD "question" (.text ""))]) ++
          line 8 arrow) ++
      blockLine 4 "div" [.classed "anti-faq__answer"]
        (line 8 (.element "p" [] (withBreaks (props.getD "answer" (.text ""))))))]

/-- The rules that every style variant of the component shares. -/
def baseStyle : Stylesheet := [
  [tall [".anti-faq__question"]
      [("display", "flex"), ("justify-content", "space-between"), ("align-items", "center"),
        ("gap", "var(--space-m)"), ("cursor", "pointer"), ("list-style", "none")]],
  [tall [".anti-faq__question::-webkit-details-marker"]
      [("display", "none")]],
  [tall [".anti-faq__icon"]
      [("flex-shrink", "0"), ("transition", "transform 0.2s ease")]],
  [tall [".anti-faq[open] .anti-faq__icon"]
      [("transform", "rotate(180deg)")]],
  [tall [".anti-faq__answer p"]
      [("margin", "0")]]]

/-- The rules of the style variant `plato`. -/
def platoStyle : Stylesheet := [
  [tall [".anti-faq"]
      [("padding", "var(--space-m) 0"),
        ("border-bottom", "var(--border-s, 1px) solid var(--neutral-light, #e5e7eb)")]],
  [tall [".anti-faq__question-text"]
      [("font-weight", "600"), ("font-size", "var(--text-l)")]],
  [tall [".anti-faq__answer"]
      [("padding-top", "var(--space-s)")]],
  [tall [".anti-faq--bordered"]
      [("padding", "var(--space-m)"), ("border", "var(--border-s, 1px) solid var(--neutral-light, #e5e7eb)"),
        ("border-radius", "var(--radius-m)")]],
  [tall [".anti-faq--filled"]
      [("padding", "var(--space-m)"), ("border", "0"), ("border-radius", "var(--radius-m)"),
        ("background", "var(--neutral-ultra-light, #f9fafb)")]]]

end DesignKit.Faq
