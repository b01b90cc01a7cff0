/-! # Stylesheets

A stylesheet is a list of groups of statements with a blank line between groups. A rule is written over
several lines, one for each declaration, or on a single one; a media query holds rules of its own. -/

namespace DesignKit

/-- A rule: its selectors, its declarations as property and value, and whether it is written on one line. -/
structure Rule where
  selectors : List String
  declarations : List (String × String)
  compact : Bool

/-- A rule, or rules under a media query. -/
inductive Statement where
  | rule (r : Rule)
  | media (query : String) (rules : List Rule)

/-- Groups of statements. -/
abbrev Stylesheet := List (List Statement)

namespace Stylesheet

/-- A rule over several lines. -/
def tall (selectors : List String) (declarations : List (String × String)) : Statement :=
  .rule ⟨selectors, declarations, false⟩

/-- A rule on one line. -/
def short (selectors : List String) (declarations : List (String × String)) : Statement :=
  .rule ⟨selectors, declarations, true⟩

/-- A declaration as it is written. -/
def declarationText (d : String × String) : String :=
  d.1 ++ ": " ++ d.2 ++ ";"

/-- The lines of a rule. -/
def ruleLines (r : Rule) : List String :=
  let heads := r.selectors.dropLast.map (· ++ ",")
  let last := r.selectors.getLast?.getD ""
  if r.compact then
    heads ++ [last ++ " \x7b " ++ " ".intercalate (r.declarations.map declarationText) ++ " \x7d"]
  else
    heads ++ [last ++ " \x7b"] ++ r.declarations.map ("    " ++ declarationText ·) ++ ["\x7d"]

/-- The lines of a statement. -/
def statementLines : Statement → List String
  | .rule r => ruleLines r
  | .media query rules =>
    ["@media (" ++ query ++ ") \x7b"] ++ (rules.flatMap ruleLines).map ("    " ++ ·) ++ ["\x7d"]

/-- The lines of a stylesheet. -/
def lines : Stylesheet → List String
  | [] => []
  | [group] => group.flatMap statementLines
  | group :: rest => group.flatMap statementLines ++ "" :: lines rest

/-- The text of a stylesheet. -/
def print (s : Stylesheet) : String :=
  "\n".intercalate (lines s) ++ "\n"

end Stylesheet
end DesignKit
