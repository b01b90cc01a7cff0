import DesignKit.Renderer
import DesignKit.Text.Search

/-! # Verification

A check renders a component with sample props and looks at the markup: it must not be blank, must hold every
expected text and none of the forbidden ones. A rendering that fails is reported like any other finding. -/

namespace DesignKit

/-- A check of a component. -/
structure Check where
  label : String
  component : String
  props : Value
  expected : List String
  forbidden : List String

/-- The outcome of a check: what was found, or nothing. -/
structure Finding where
  label : String
  error : Option String
deriving DecidableEq, Repr

namespace Check

/-- What is wrong with the markup of a component. -/
def examine (c : Check) (output : String) : Option String :=
  if Text.strip output == "" then some "Empty output"
  else
    match c.expected.find? fun marker => !Text.holds output marker with
    | some marker => some ("Expected '" ++ marker ++ "' not found in output")
    | none =>
      (c.forbidden.find? fun marker => Text.holds output marker).map fun marker =>
        "Unexpected '" ++ marker ++ "' found in output"

/-- The outcome of a check. -/
def run (r : Renderer) (c : Check) : Render Finding := do
  match ← (r.renderComponent (.text c.component) c.props).attempt with
  | .error fault => return ⟨c.label, some (fault.kind ++ ": " ++ fault.message)⟩
  | .ok m => return ⟨c.label, c.examine m.print⟩

/-- The outcomes of checks, in order. -/
def runAll (r : Renderer) (checks : List Check) : Render (List Finding) :=
  checks.mapM (run r)

/-! ### The checks of the bundled library -/

/-- A component with the texts that its markup must hold. -/
def expecting (label component : String) (props : Members) (expected : List String) : Check :=
  ⟨label, component, .object props, expected, []⟩

/-- A child of a sample. -/
def sampleChild (type : String) (props : Members) : Value :=
  .object [("type", .text type), ("props", .object props)]

/-- A column of a sample table. -/
def sampleColumn (key label : String) : Value :=
  .object [("key", .text key), ("label", .text label)]

/-- A column of a sample table that delegates its cells to badges. -/
def badgeColumn (props : Members) : Value :=
  .object [("label", .text "Status"),
    ("component", .object [("name", .text "badge"), ("props", .object props)])]

/-- A row of a sample table. -/
def sampleRow (id : Int) (name email status variant : String) : Value :=
  .object [("id", .int id), ("name", .text name), ("email", .text email), ("status", .text status),
    ("variant", .text variant)]

/-- The checks of the simple components. -/
def simpleChecks : List Check :=
  [expecting "button" "button" [("text", .text "Test Button"), ("url", .text "#")] ["anti-button"],
    expecting "intro" "intro" [("title", .text "Hello World"), ("size", .text "m")] ["anti-intro"]] ++
  ["neutral", "success", "warning", "danger", "info"].map fun variant =>
    expecting ("badge/" ++ variant) "badge" [("text", .text (Text.upperFirst variant)), ("variant", .text variant)]
      ["anti-badge--" ++ variant]

/-- The checks of heroes. -/
def heroChecks : List Check :=
  [expecting "hero" "hero"
      [("alignment", .text "center"), ("size", .text "lg"),
        ("children", .list [sampleChild "intro" [("title", .text "Hero Title"), ("size", .text "l")],
          sampleChild "button" [("text", .text "Get Started"), ("url", .text "#")]])]
      ["anti-hero"],
    expecting "hero/compose" "hero"
      [("children", .list [sampleChild "intro" [("title", .text "Composition Test")],
        sampleChild "button" [("text", .text "CTA Button"), ("url", .text "#")]])]
      ["anti-intro", "anti-button"]]

/-- The checks of tables. -/
def tableChecks : List Check :=
  [expecting "table" "table"
      [("columns", .list [sampleColumn "name" "Name", sampleColumn "email" "Email",
          badgeColumn [("text", .text "\x7bstatus\x7d"), ("variant", .text "\x7bvariant\x7d")]]),
        ("data", .list [sampleRow 1 "Alice" "alice@test.com" "Active" "success",
          sampleRow 2 "Bob" "bob@test.com" "Inactive" "neutral"])]
      ["anti-table"],
    expecting "table/delegate" "table"
      [("columns", .list [badgeColumn [("text", .text "\x7bstatus\x7d")]]),
        ("data", .list [.object [("id", .int 1), ("status", .text "Active")]])]
      ["anti-badge"],
    expecting "table/empty" "table"
      [("columns", .list [sampleColumn "name" "Name"]), ("data", .list []), ("empty_title", .text "Nothing here")]
      ["anti-table__empty"]]

/-- The checks of code blocks. -/
def codeChecks : List Check :=
  [expecting "code-block" "code-block"
      [("code", .text "print(\"Hello\")"), ("language", .text "python"), ("title", .text "Example")]
      ["anti-code-block"],
    ⟨"code-block/esc", "code-block", .object [("code", .text "<script>alert(\"xss\")</script>")],
      ["&lt;script&gt;"], ["<script>"]⟩,
    expecting "code-block/lines" "code-block"
      [("code", .text "line 1\nline 2\nline 3"), ("line_numbers", .bool true)]
      ["anti-code-block--has-line-numbers"]]

/-- The checks of the other components. -/
def furtherChecks : List Check :=
  [expecting "card" "card" [("title", .text "Card"), ("link_url", .text "/more")] ["anti-card--clickable"],
    expecting "container" "container" [("children", .list [sampleChild "badge" [("text", .text "Inside")]])]
      ["anti-container", "anti-badge"],
    expecting "faq" "faq" [("initially_open", .text "true")] ["anti-faq", " open"],
    expecting "section" "section"
      [("colorway", .text "primary"), ("children", .list [sampleChild "intro" [("title", .text "Inside")]])]
      ["data-colorway=\"primary\"", "anti-intro"],
    expecting "select" "select"
      [("name", .text "plan"),
        ("options", .list [.object [("value", .text "a"), ("label", .text "A")]]), ("value", .text "a")]
      ["anti-select--dropdown", "selected"],
    expecting "select/radio" "select"
      [("display", .text "radio"), ("name", .text "plan"),
        ("options", .list [.object [("value", .text "a"), ("label", .text "A")]])]
      ["anti-select__input"],
    expecting "stats" "stats" [("value", .text "42"), ("prefix", .text "$")] ["anti-stats__prefix"],
    expecting "testimonial" "testimonial" [("author_name", .text "Ada"), ("rating", .int 3)]
      ["anti-testimonial__star--filled", "anti-testimonial__avatar--placeholder"]]

/-- The checks of all bundled components. -/
def bundle : List Check :=
  simpleChecks ++ heroChecks ++ tableChecks ++ codeChecks ++ furtherChecks

end Check
end DesignKit
