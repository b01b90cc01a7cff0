import DesignKit.Render
import DesignKit.Stylesheet

/-! # Card

A card with an image or an icon, a title, a description and a link. An icon is shown only where there is no
image; a link makes the whole card an anchor. -/

namespace DesignKit.Card
open Helper Markup
open Stylesheet (tall short)

/-- The schema of the component. -/
def schema : Schema where
  name := "card"
  label := "Card"
  category := some "Content"
  description := some "Content card with optional image, icon and link."
  fields := [
    .declared "title" "text" "Title" (.text "Card Title"),
    .declared "description" "textarea" "Description" (.text ""),
    .declared "image" "url" "Image" (.text ""),
    .declared "image_alt" "text" "Image alt text" (.text ""),
    .declared "icon" "text" "Icon" (.text ""),
    .declared "link_url" "url" "Link URL" (.text ""),
    .declared "link_text" "text" "Link text" (.text "Learn More"),
    .declared "image_position" "select" "Image position" (.text "top"),
    .declared "image_ratio" "select" "Image ratio" (.text "16:9")]
  children := none

/-- The arrow behind the text of a link. -/
def arrow : Node :=
  block 12 "svg" [.classed "anti-card__arrow", .attr "width" "16", .attr "height" "16",
      .attr "viewBox" "0 0 16 16", .attr "fill" "none", .attr "aria-hidden" "true"]
    (line 16 (.void "path" [.attr "d" "M6 12L10 8L6 4", .attr "stroke" "currentColor", .attr "stroke-width" "2",
      .attr "stroke-linecap" "round", .attr "stroke-linejoin" "round"] .slash))

/-- The icon of a card, which an image replaces. -/
def iconOf (props : Members) : Value :=
  if (props.get "image").truthy then .text "" else props.get "icon"

/-- The class names of a card. -/
def classNames (props : Members) : Except Fault String :=
  let image := props.get "image"
  let position := (props.get "image_position").orElse (.text "top")
  let ratio := (props.get "image_ratio").orElse (.text "16:9")
  classes [named "anti-card" true, named ("anti-card--img-" ++ position.print) image.truthy,
    named ("anti-card--ratio-" ++ ratio.print) (image.truthy && !ratio.same (.text "auto")),
    named "anti-card--has-icon" (iconOf props).truthy,
    named "anti-card--clickable" (props.get "link_url").truthy]

/-- The lines of the image. -/
def imageLines (props : Members) (title : Value) : Markup :=
  let image := props.get "image"
  given image.truthy <| blockLine 4 "div" [.classed "anti-card__image"]
    (line 8 (.void "img" [.valued "src" image, .valued "alt" ((props.get "image_alt").orElse title),
      .attr "loading" "lazy"] .spacedSlash))

/-- The lines of the link. -/
def linkLines (props : Members) : Markup :=
  let text := props.get "link_text"
  given ((props.get "link_url").truthy && text.truthy) <| blockLine 8 "span" [.classed "anti-card__link"]
    (line 12 (.ofValue text) ++ line 12 arrow)

/-- The lines of the content beside the image. -/
def contentLines (props : Members) (title : Value) : Markup :=
  let icon := iconOf props
  let description := props.get "description"
  blockLine 4 "div" [.classed "anti-card__content"]
    (given icon.truthy (line 8 (.element "div" [.classed "anti-card__icon"] [.ofValue icon])) ++
      line 8 (.element "h3" [.classed "anti-card__title"] [.ofValue title]) ++
      given description.truthy (line 8 (.element "p" [.classed "anti-card__description"] [.ofValue description])) ++
      linkLines props)

/-- The markup of a card. -/
def template : Template := fun _ props => do
  let title := props.getD "title" (.text "")
  let url := props.get "link_url"
  let css ← classNames props
  let items := .classed css :: Item.given url.truthy (.valued "href" url) ++ editable props
  return [block 0 (if url.truthy then "a" else "div") items (imageLines props title ++ contentLines props title)]

/-- The rules that every style variant of the component shares. -/
def baseStyle : Stylesheet := [
  [tall [".anti-card"]
      [("display", "flex"), ("flex-direction", "column"), ("overflow", "hidden"), ("color", "inherit"),
        ("text-decoration", "none")]],
  [short [".anti-card--img-left"]
      [("flex-direction", "row")],
    short [".anti-card--img-right"]
      [("flex-direction", "row-reverse")]],
  [tall [".anti-card__image img"]
      [("display", "block"), ("width", "100%"), ("height", "100%"), ("object-fit", "cover")]],
  [short [".anti-card--ratio-16\\:9 .anti-card__image"]
      [("aspect-ratio", "16 / 9")],
    short [".anti-card--ratio-4\\:3 .anti-card__image"]
      [("aspect-ratio", "4 / 3")],
    short [".anti-card--ratio-square .anti-card__image"]
      [("aspect-ratio", "1")]],
  [tall [".anti-card__content"]
      [("display", "flex"), ("flex-direction", "column"), ("gap", "var(--space-s)"), ("padding", "var(--space-l)")]],
  [tall [".anti-card__title"]
      [("margin", "0"), ("font-size", "var(--heading-4)")]],
  [short [".anti-card__description"]
      [("margin", "0")]],
  [tall [".anti-card__link"]
      [("display", "inline-flex"), ("align-items", "center"), ("gap", "var(--space-xxs)"), ("font-weight", "600")]]]

/-- The rules of the style variant `plato`. -/
def platoStyle : Stylesheet := [
  [tall [".anti-card"]
      [("background", "var(--colorway-background, #fff)"),
        ("border", "var(--border-s, 1px) solid var(--neutral-light, #e5e7eb)"),
          ("border-radius", "var(--radius-l)"), ("box-shadow", "var(--shadow-s)")]],
  [tall [".anti-card--clickable:hover"]
      [("box-shadow", "var(--shadow-m)")]],
  [tall [".anti-card__icon"]
      [("font-size", "var(--heading-3)")]],
  [tall [".anti-card__link"]
      [("color", "var(--primary)")]]]

end DesignKit.Card
