import DesignKit.Markup.Helper
import DesignKit.Proofs.Html.Fits

/-! # The vocabulary of the library

The tags that the templates of the library write, each with the attributes that they write in it. The break
element is no tag of a template: it comes from the lines of a text. -/

namespace DesignKit
open Markup

namespace Html

/-- The tags and attributes in the templates. -/
def templates : Vocabulary where
  tags := [
    ("a", ["href", "class", "data-colorway"]),
    ("blockquote", ["class"]),
    ("button", ["type", "class", "data-colorway", "data-value", "aria-pressed", "disabled"]),
    ("cite", ["class"]),
    ("code", ["class"]),
    ("details", ["class", "open"]),
    ("div", ["class", "role", "aria-label", "style", "data-colorway", "data-language", "data-layout", "data-columns",
      "data-direction", "data-wrap", "data-gap", "data-align", "data-justify", "data-size"]),
    ("fieldset", ["class", "data-colorway", "aria-describedby", "aria-invalid"]),
    ("h2", ["class"]),
    ("h3", ["class"]),
    ("img", ["class", "src", "alt", "loading"]),
    ("input", ["type", "class", "id", "name", "value", "aria-label", "checked", "disabled"]),
    ("label", ["class", "for"]),
    ("legend", ["class"]),
    ("option", ["value", "disabled", "selected"]),
    ("p", ["class", "id", "role"]),
    ("path", ["d", "fill", "stroke", "stroke-width", "stroke-linecap", "stroke-linejoin"]),
    ("pre", ["class", "style"]),
    ("section", ["class", "style", "data-colorway", "data-padding-top", "data-padding-bottom", "data-gap"]),
    ("select", ["class", "id", "name", "aria-required", "aria-invalid", "aria-describedby", "disabled"]),
    ("span", ["class", "data-line", "aria-label", "aria-hidden"]),
    ("summary", ["class"]),
    ("svg", ["class", "width", "height", "viewBox", "fill", "aria-hidden"]),
    ("table", ["class"]),
    ("tbody", ["class"]),
    ("td", ["class", "colspan"]),
    ("th", ["class", "style"]),
    ("thead", ["class"]),
    ("tr", ["class", "data-row-key"])]
  voids := ["img", "input"]

/-- The vocabulary of the templates, and the break element, which is void. -/
def library : Vocabulary where
  tags := ("br", []) :: templates.tags
  voids := "br" :: templates.voids

theorem library_isLegible : library.isLegible = true := by
  decide

end Html
end DesignKit
