import DesignKit.Render
import DesignKit.Stylesheet

/-! # Testimonial

A quote with its author and a rating of one to five stars. Without a picture the initial of the author is
shown instead. -/

namespace DesignKit.Testimonial
open Helper Markup
open Stylesheet (tall short)

/-- The schema of the component. -/
def schema : Schema where
  name := "testimonial"
  label := "Testimonial"
  category := some "Content"
  description := some "Customer quote with attribution, avatar and optional rating."
  fields := [
    .declared "quote" "textarea" "Quote" (.text "This product has completely transformed how we work."),
    .declared "author_name" "text" "Author name" (.text "Jane Smith"),
    .declared "author_role" "text" "Author role" (.text ""),
    .declared "avatar" "url" "Avatar" (.text ""),
    .declared "rating" "number" "Rating" (.int 5),
    .declared "show_rating" "select" "Show rating" (.text "true"),
    .declared "colorway" "colorway" "Colorway" (.text "inherit")]
  children := none

/-- The rating, at least one and at most five. -/
def ratingOf (props : Members) : Except Fault Int := do
  return max 1 (min 5 (← integer 5 (props.getD "rating" (.int 5))))

/-- The line of a star. -/
def starLine (filled : Bool) : Markup :=
  let names := if filled then "anti-testimonial__star anti-testimonial__star--filled" else "anti-testimonial__star"
  blockLine 8 "svg" [.classed names, .attr "width" "20", .attr "height" "20", .attr "viewBox" "0 0 20 20",
      .attr "fill" "none", .attr "aria-hidden" "true"]
    (line 12 (.void "path" [
      .attr "d" "M10 1L12.39 6.26L18 7.27L14 11.14L14.76 17L10 14.27L5.24 17L6 11.14L2 7.27L7.61 6.26L10 1Z",
      .attr "fill" "currentColor", .attr "stroke" "currentColor", .attr "stroke-width" "1.5",
      .attr "stroke-linecap" "round", .attr "stroke-linejoin" "round"] .slash))

/-- The lines of the rating: five stars, as many of them filled as it says. -/
def ratingLines (rating : Int) : Markup :=
  blockLine 4 "div" [.classed "anti-testimonial__rating",
      .attr "aria-label" (Number.intText rating ++ " out of 5 stars")]
    (([1, 2, 3, 4, 5] : List Int).flatMap fun i => starLine (i ≤ rating))

/-- The line of the picture, or of the initial in its place. -/
def avatarLine (avatar author : Value) : Markup :=
  if avatar.truthy then
    line 8 (.void "img" [.classed "anti-testimonial__avatar", .valued "src" avatar, .valued "alt" author,
      .attr "loading" "lazy"] .spacedSlash)
  else
    line 8 (.element "div" [.classed "anti-testimonial__avatar anti-testimonial__avatar--placeholder"]
      [.text (firstChar author)])

/-- The lines of the author. -/
def authorLines (props : Members) (avatar author : Value) : Markup :=
  let role := props.get "author_role"
  blockLine 4 "div" [.classed "anti-testimonial__author"]
    (avatarLine avatar author ++
      blockLine 8 "div" [.classed "anti-testimonial__author-info"]
        (line 12 (.element "cite" [.classed "anti-testimonial__name"] [.ofValue author]) ++
          given role.truthy (line 12 (.element "span" [.classed "anti-testimonial__role"] [.ofValue role]))))

/-- The markup of a testimonial. -/
def template : Template := fun _ props => do
  let author := props.getD "author_name" (.text "")
  let avatar := props.get "avatar"
  let rating ← ratingOf props
  let css ← classes [named "anti-testimonial" true, named "anti-testimonial--has-avatar" avatar.truthy]
  let items := .classed css :: colorway ((props.get "colorway").orElse (.text "inherit")) ++ editable props
  return [block 0 "div" items
    (given (flag (props.getD "show_rating" (.text "true"))) (ratingLines rating) ++
      blockLine 4 "blockquote" [.classed "anti-testimonial__quote"]
        (line 8 (.element "p" [] [.ofValue (props.getD "quote" (.text ""))])) ++
      authorLines props avatar author)]

/-- The rules that every style variant of the component shares. -/
def baseStyle : Stylesheet := [
  [tall [".anti-testimonial"]
      [("display", "flex"), ("flex-direction", "column"), ("gap", "var(--space-m)")]],
  [tall [".anti-testimonial__rating"]
      [("display", "flex"), ("gap", "var(--space-xxs)")]],
  [tall [".anti-testimonial__quote"]
      [("margin", "0")]],
  [tall [".anti-testimonial__quote p"]
      [("margin", "0")]],
  [tall [".anti-testimonial__author"]
      [("display", "flex"), ("align-items", "center"), ("gap", "var(--space-s)")]],
  [tall [".anti-testimonial__avatar"]
      [("width", "48px"), ("height", "48px"), ("border-radius", "50%"), ("object-fit", "cover")]],
  [tall [".anti-testimonial__avatar--placeholder"]
      [("display", "flex"), ("align-items", "center"), ("justify-content", "center"), ("font-weight", "700")]],
  [tall [".anti-testimonial__author-info"]
      [("display", "flex"), ("flex-direction", "column")]]]

/-- The rules of the style variant `plato`. -/
def platoStyle : Stylesheet := [
  [tall [".anti-testimonial"]
      [("padding", "var(--space-l)"), ("border-radius", "var(--radius-l)"),
        ("background", "var(--colorway-background, #fff)"), ("box-shadow", "var(--shadow-s)")]],
  [tall [".anti-testimonial__star"]
      [("color", "var(--neutral-light, #d1d5db)")]],
  [tall [".anti-testimonial__star--filled"]
      [("color", "var(--warning, #f59e0b)")]],
  [tall [".anti-testimonial__quote"]
      [("font-size", "var(--text-l)"), ("font-style", "italic")]],
  [tall [".anti-testimonial__avatar--placeholder"]
      [("background", "var(--primary)"), ("color", "#fff")]],
  [tall [".anti-testimonial__name"]
      [("font-style", "normal"), ("font-weight", "600")]],
  [tall [".anti-testimonial__role"]
      [("font-size", "var(--text-s)"), ("opacity", "0.7")]]]

end DesignKit.Testimonial
