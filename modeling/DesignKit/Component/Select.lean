import DesignKit.Render
import DesignKit.Stylesheet

/-! # Select

A field to pick from options: a drop-down list, a row of buttons, or a group of radio buttons or checkboxes.
Its parts refer to one another by ids that are made from the field's name or, without one, from its place
among its siblings. -/

namespace DesignKit.Select
open Helper Markup
open Stylesheet (tall short)

/-- The schema of the component. -/
def schema : Schema where
  name := "select"
  label := "Select"
  category := some "Forms"
  description := some "Pick-from-options field shown as a dropdown, radio group, checkbox group or button group."
  fields := [
    .declared "display" "select" "Display" (.text "dropdown"),
    .declared "label" "text" "Label" (.text "Label"),
    .declared "name" "text" "Name" (.text ""),
    .declared "options" "options" "Options" (.list [.object [("value", .text "one"), ("label", .text "Option one")], .object [("value", .text "two"), ("label", .text "Option two")]]),
    .declared "value" "text" "Value" (.text ""),
    .declared "placeholder" "text" "Placeholder" (.text ""),
    .declared "helper_text" "text" "Helper text" (.text ""),
    .declared "error_text" "text" "Error text" (.text ""),
    .declared "required" "toggle" "Required" (.bool false),
    .declared "disabled" "toggle" "Disabled" (.bool false),
    .declared "size" "select" "Size" (.text "m"),
    .declared "colorway" "colorway" "Colorway" (.text "inherit"),
    .declared "class" "text" "Extra classes" (.text "")]
  children := none

/-- What the parts of a field have in common. -/
structure Parts where
  props : Members
  id : String
  classes : String
  helper : Value
  error : Value
  required : Bool
  disabled : Bool
  name : Value
  value : Value
  label : Value

namespace Parts

/-- The id of a field. -/
def idOf (props : Members) : String :=
  let place := Value.text ("field-" ++ (props.getD Composition.indexKey (.int 0)).print)
  "select-" ++ (((props.get "name").orElse (.text "")).orElse place).print

/-- The class names of a field. -/
def classNames (props : Members) : Except Fault String :=
  let extra := props.get "class"
  Helper.classes [named "anti-select" true,
    named ("anti-select--" ++ ((props.get "display").orElse (.text "dropdown")).print) true,
    named ("anti-select--" ++ ((props.get "size").orElse (.text "m")).print) true,
    named "anti-select--error" (props.get "error_text").truthy,
    named "anti-select--disabled" (flag (props.get "disabled")),
    (extra.orElse (.text ""), extra)]

/-- The parts that props give. -/
def ofProps (props : Members) : Except Fault Parts := do
  let names ← classNames props
  return { props, id := idOf props, classes := names
           helper := props.get "helper_text", error := props.get "error_text"
           required := flag (props.get "required"), disabled := flag (props.get "disabled")
           name := (props.get "name").orElse (.text ""), value := props.get "value"
           label := props.getD "label" (.text "") }

/-- The items of the outer element. -/
def items (p : Parts) : List Item :=
  .classed p.classes :: Helper.colorway ((p.props.get "colorway").orElse (.text "inherit")) ++ editable p.props

def helperId (p : Parts) : String := p.id ++ "-helper"

def errorId (p : Parts) : String := p.id ++ "-error"

/-- The reference to the messages that are shown. -/
def describedBy (p : Parts) : List Item :=
  let ids := (if p.helper.truthy then [p.helperId] else []) ++ (if p.error.truthy then [p.errorId] else [])
  Item.given (!ids.isEmpty) (.attr "aria-describedby" (" ".intercalate ids))

/-- The mark of an invalid field. -/
def invalid (p : Parts) : List Item :=
  Item.given p.error.truthy (.attr "aria-invalid" "true")

/-- The label and the mark of a required field. -/
def labelLines (p : Parts) : Markup :=
  line 8 (.ofValue p.label) ++
    given p.required
      (line 8 (.element "span" [.classed "anti-select__required", .attr "aria-hidden" "true"] [.text "*"])) ++
    [newline]

/-- The lines of the messages. -/
def messageLines (p : Parts) : Markup :=
  given p.helper.truthy
      (line 4 (.element "p" [.classed "anti-select__helper", .attr "id" p.helperId] [.ofValue p.helper])) ++
    given p.error.truthy
      (line 4 (.element "p" [.classed "anti-select__error", .attr "id" p.errorId, .attr "role" "alert"]
        [.ofValue p.error])) ++
    [newline]

/-- The lines of the legend. -/
def legendLines (p : Parts) : Markup :=
  blockLine 4 "legend" [.classed "anti-select__legend"] p.labelLines

end Parts

/-- An option: its value and what is shown for it. -/
structure Choice where
  value : Value
  label : Value

/-- The option given by a value. -/
def Choice.ofValue (v : Value) : Except Fault Choice := do
  let value ← member v "value" (.text "")
  let label ← member v "label" .null
  return ⟨value, label.orElse value⟩

/-- The options of a field, in order. -/
def choices (props : Members) : Except Fault (List Choice) := do
  (← items ((props.get "options").orElse (.list []))).mapM Choice.ofValue

/-! ### Drop-down list -/

/-- The line of an entry of the list. -/
def entryLine (p : Parts) (choice : Choice) : Markup :=
  line 8 (.element "option"
    (.valued "value" choice.value :: Item.given (p.value.same choice.value) (.flag "selected"))
    [.ofValue choice.label])

/-- The line that is shown while nothing is chosen. -/
def placeholderLine (p : Parts) : Markup :=
  let text := p.props.get "placeholder"
  given text.truthy <| line 8 (.element "option"
    ([.attr "value" "", .flag "disabled"] ++ Item.given (!p.value.truthy) (.flag "selected")) [.ofValue text])

/-- The field as a drop-down list. -/
def dropdown (p : Parts) (options : List Choice) : Node :=
  block 0 "div" p.items
    (blockLine 4 "label" [.classed "anti-select__label", .attr "for" p.id] p.labelLines ++
      blockLine 4 "select"
        ([.classed "anti-select__control", .attr "id" p.id, .valued "name" p.name] ++
          Item.given p.required (.attr "aria-required" "true") ++ p.invalid ++
          Item.given p.disabled (.flag "disabled") ++ p.describedBy)
        (placeholderLine p ++ options.flatMap (entryLine p)) ++
      p.messageLines)

/-! ### Row of buttons -/

/-- The line of a button of the row. -/
def buttonLine (p : Parts) (choice : Choice) : Markup :=
  let active := p.value.same choice.value
  let names := if active then "anti-select__btn is-active" else "anti-select__btn"
  line 8 (.element "button"
    ([.attr "type" "button", .classed names, .valued "data-value" choice.value,
        .attr "aria-pressed" (if active then "true" else "false")] ++
      Item.given p.disabled (.flag "disabled"))
    [.ofValue choice.label])

/-- The field as a row of buttons. -/
def buttonGroup (p : Parts) (options : List Choice) : Node :=
  block 0 "fieldset" (p.items ++ p.describedBy ++ p.invalid)
    (p.legendLines ++
      line 4 (.void "input" [.attr "type" "hidden", .valued "name" p.name,
        .valued "value" (p.value.orElse (.text ""))] .plain) ++
      blockLine 4 "div" [.classed "anti-select__btngroup", .attr "role" "group", .valued "aria-label" p.label]
        (options.flatMap (buttonLine p)) ++
      p.messageLines)

/-! ### Radio buttons and checkboxes -/

/-- The chosen options of a group are marked: with checkboxes a list or an object holds several of them. -/
def isChecked (checkboxes : Bool) (value chosen : Value) : Except Fault Bool :=
  match chosen with
  | .list _ => if checkboxes then occurs value chosen else .ok (chosen.same value)
  | .object _ => if checkboxes then occurs value chosen else .ok (chosen.same value)
  | chosen => .ok (chosen.same value)

/-- The lines of an input at an index. -/
def inputLines (p : Parts) (display : Value) (index : Nat) (choice : Choice) (checked : Bool) : Markup :=
  let id := p.id ++ "-" ++ Number.intText index
  let kind := if display.same (.text "radio") then "radio" else "checkbox"
  let name := if display.same (.text "checkbox") then p.name.print ++ "[]" else p.name.print
  blockLine 8 "label" [.classed "anti-select__option", .attr "for" id]
    (line 12 (.void "input"
        ([.attr "type" kind, .classed "anti-select__input", .attr "id" id, .attr "name" name,
            .valued "value" choice.value] ++
          Item.given checked (.flag "checked") ++ Item.given p.disabled (.flag "disabled")) .spacedSlash) ++
      line 12 (.element "span" [.classed "anti-select__option-label"] [.ofValue choice.label]))

/-- The inputs of options from an index on. -/
def allInputLines (p : Parts) (display : Value) : Nat → List Value → Except Fault Markup
  | _, [] => .ok []
  | index, option :: rest => do
    let value ← member option "value" (.text "")
    let checked ← isChecked (display.same (.text "checkbox")) value p.value
    let choice ← Choice.ofValue option
    let others ← allInputLines p display (index + 1) rest
    return inputLines p display index choice checked ++ others

/-- The field as a group of inputs. -/
def inputGroup (p : Parts) (inputs : Markup) : Node :=
  block 0 "fieldset" (p.items ++ p.describedBy ++ p.invalid)
    (p.legendLines ++ blockLine 4 "div" [.classed "anti-select__options"] inputs ++ p.messageLines)

/-- The markup of a field. -/
def template : Template := fun _ props => do
  let display := (props.get "display").orElse (.text "dropdown")
  let p ← Parts.ofProps props
  if display.same (.text "dropdown") then return [dropdown p (← choices props)]
  else if display.same (.text "button-group") then return [buttonGroup p (← choices props)]
  else
    let options ← items ((props.get "options").orElse (.list []))
    return [inputGroup p (← allInputLines p display 0 options)]

/-- The rules that every style variant of the component shares. -/
def baseStyle : Stylesheet := [
  [tall [".anti-select"]
      [("display", "flex"), ("flex-direction", "column"), ("gap", "var(--space-xs)"), ("margin", "0"),
        ("padding", "0"), ("border", "0")]],
  [tall [".anti-select__label", ".anti-select__legend"]
      [("padding", "0"), ("font-weight", "600")]],
  [tall [".anti-select__control"]
      [("font", "inherit")]],
  [short [".anti-select--s .anti-select__control"]
      [("padding", "var(--space-xxs) var(--space-xs)"), ("font-size", "var(--text-s)")],
    short [".anti-select--m .anti-select__control"]
      [("padding", "var(--space-xs) var(--space-s)")],
    short [".anti-select--l .anti-select__control"]
      [("padding", "var(--space-s) var(--space-m)"), ("font-size", "var(--text-l)")]],
  [tall [".anti-select__options"]
      [("display", "flex"), ("flex-direction", "column"), ("gap", "var(--space-xs)")]],
  [tall [".anti-select__option"]
      [("display", "inline-flex"), ("align-items", "center"), ("gap", "var(--space-xs)")]],
  [tall [".anti-select__btngroup"]
      [("display", "inline-flex")]],
  [tall [".anti-select__helper", ".anti-select__error"]
      [("margin", "0"), ("font-size", "var(--text-s)")]],
  [tall [".anti-select--disabled"]
      [("opacity", "0.6")]]]

/-- The rules of the style variant `plato`. -/
def platoStyle : Stylesheet := [
  [tall [".anti-select__control"]
      [("border", "var(--border-s, 1px) solid var(--neutral-light, #d1d5db)"),
        ("border-radius", "var(--radius-s)"), ("background", "#fff")]],
  [tall [".anti-select__required", ".anti-select__error"]
      [("color", "var(--danger, #dc2626)")]],
  [tall [".anti-select--error .anti-select__control"]
      [("border-color", "var(--danger, #dc2626)")]],
  [tall [".anti-select__btn"]
      [("padding", "var(--space-xs) var(--space-m)"),
        ("border", "var(--border-s, 1px) solid var(--neutral-light, #d1d5db)"), ("background", "transparent"),
          ("font", "inherit"), ("cursor", "pointer")]],
  [short [".anti-select__btn:first-child"]
      [("border-radius", "var(--radius-s) 0 0 var(--radius-s)")],
    short [".anti-select__btn:last-child"]
      [("border-radius", "0 var(--radius-s) var(--radius-s) 0")]],
  [tall [".anti-select__btn.is-active"]
      [("background", "var(--primary)"), ("border-color", "var(--primary)"), ("color", "#fff")]],
  [tall [".anti-select__helper"]
      [("opacity", "0.7")]]]

end DesignKit.Select
