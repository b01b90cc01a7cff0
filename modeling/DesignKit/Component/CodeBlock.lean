import DesignKit.Render
import DesignKit.Stylesheet

/-! # Code block

Preformatted code under an optional header with its title and language. The code is shown as it is or line
by line with numbers. Without code there is no block. -/

namespace DesignKit.CodeBlock
open Helper Markup
open Stylesheet (tall short)

/-- The schema of the component. -/
def schema : Schema where
  name := "code-block"
  label := "Code Block"
  category := some "Content"
  description := some "Preformatted code with an optional title and line numbers."
  fields := [
    .declared "code" "textarea" "Code" (.text ""),
    .declared "language" "text" "Language" (.text ""),
    .declared "title" "text" "Title" (.text ""),
    .declared "line_numbers" "toggle" "Line numbers" (.bool false),
    .declared "max_height" "text" "Max height" (.text "")]
  children := none

/-- The class names of a code block. -/
def classNames (props : Members) : Except Fault String :=
  classes [named "anti-code-block" true, named "anti-code-block--has-title" (props.get "title").truthy,
    named "anti-code-block--has-line-numbers" (flag (props.get "line_numbers"))]

/-- The lines of the header. -/
def headerLines (title language : Value) : Markup :=
  given (title.truthy || language.truthy) <| blockLine 4 "div" [.classed "anti-code-block__header"]
    (given title.truthy (line 8 (.element "span" [.classed "anti-code-block__title"] [.ofValue title])) ++
      given language.truthy
        (line 8 (.element "span" [.classed "anti-code-block__language"] [.ofValue language])))

/-- Lines of code from a number on, each in an element of its own. -/
def numberedLines : Nat → List String → Markup
  | _, [] => []
  | n, s :: rest =>
    .element "span" [.classed "anti-code-block__line", .attr "data-line" (Number.intText n)] [.text s] ::
      newline :: numberedLines (n + 1) rest

/-- The content of the code element. -/
def codeContent (numbered : Bool) (code : Value) : Markup :=
  if numbered then numberedLines 1 (lines (.text code.print)) else [.ofValue code]

/-- The line of the code. -/
def codeLine (props : Members) (code : Value) : Markup :=
  let height := props.get "max_height"
  line 4 (.element "pre"
    (.classed "anti-code-block__pre" :: Item.given height.truthy
      (.attr "style" ("max-height: " ++ height.print ++ "; overflow-y: auto;")))
    [.element "code" [.classed "anti-code-block__code"] (codeContent (flag (props.get "line_numbers")) code)])

/-- The markup of a code block. -/
def template : Template := fun _ props => do
  let code := props.get "code"
  if code.truthy then
    let language := props.get "language"
    let css ← classNames props
    let items := .classed css :: Item.given language.truthy (.valued "data-language" language) ++ editable props
    return [block 0 "div" items (headerLines (props.get "title") language ++ codeLine props code)]
  else return []

/-- The rules that every style variant of the component shares. -/
def baseStyle : Stylesheet := [
  [tall [".anti-code-block"]
      [("overflow", "hidden")]],
  [tall [".anti-code-block__header"]
      [("display", "flex"), ("justify-content", "space-between"), ("align-items", "center"),
        ("padding", "var(--space-xs) var(--space-m)"), ("font-size", "var(--text-s)")]],
  [tall [".anti-code-block__pre"]
      [("margin", "0"), ("padding", "var(--space-m)"), ("overflow-x", "auto"),
        ("font-family", "ui-monospace, SFMono-Regular, Menlo, monospace"), ("font-size", "var(--text-s)")]],
  [tall [".anti-code-block--has-line-numbers .anti-code-block__code"]
      [("counter-reset", "line")]],
  [tall [".anti-code-block__line::before"]
      [("counter-increment", "line"), ("content", "counter(line)"), ("display", "inline-block"),
        ("width", "2.5em"), ("margin-right", "var(--space-s)"), ("text-align", "right"), ("opacity", "0.5")]]]

/-- The rules of the style variant `plato`. -/
def platoStyle : Stylesheet := [
  [tall [".anti-code-block"]
      [("background", "var(--neutral-ultra-dark, #111827)"), ("color", "var(--neutral-ultra-light, #f9fafb)"),
        ("border-radius", "var(--radius-m)")]],
  [tall [".anti-code-block__header"]
      [("border-bottom", "var(--border-s, 1px) solid rgba(255, 255, 255, 0.1)")]],
  [tall [".anti-code-block__language"]
      [("text-transform", "uppercase"), ("letter-spacing", "0.05em"), ("opacity", "0.7")]]]

end DesignKit.CodeBlock
