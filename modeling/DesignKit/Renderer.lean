import DesignKit.Bundle

/-! # Renderers

A renderer has a registry of render functions under the names of component types, a source of schemas and a
policy for unknown children. It renders a component by merging the defaults of its schema under the given
props and applying its render function to the result. Components nest as deeply as the data does; a limit
beyond the depth of the data stops those that bring in further components of their own without end. -/

namespace DesignKit

/-- How a component type is rendered. -/
inductive RenderFunction where
  /-- The template of a bundled component. -/
  | bundled (b : Bundled)
  /-- A template that is plain markup. -/
  | plain (html : String)
  /-- A placeholder in the place of a missing template. -/
  | missing (placeholder : String)
  /-- A function of the host program, which gives a text. -/
  | host (function : Composition → Members → Render String)

/-- The markup that a render function gives for a prop bag. What is not composed of markup is taken as it is,
without the blanks around it. -/
def RenderFunction.apply : RenderFunction → Template
  | bundled b => b.template
  | plain html => fun _ _ => return Markup.ofVerbatim (Text.strip html)
  | missing placeholder => fun _ _ => return Markup.ofVerbatim (Text.strip placeholder)
  | host function => fun composition bag => do
    return Markup.ofVerbatim (Text.strip (← function composition bag))

/-- The render functions under their type names. -/
abbrev Registry := List (String × RenderFunction)

namespace Registry

/-- Registers a function; a name that is registered already gets the new one. -/
def register : Registry → String → RenderFunction → Registry
  | [], name, f => [(name, f)]
  | (n, g) :: rest, name, f => if n == name then (n, f) :: rest else (n, g) :: register rest name f

/-- The function of a name. -/
def find? (r : Registry) (name : String) : Option RenderFunction :=
  r.lookup name

/-- The registered names in ascending order. -/
def names (r : Registry) : List String :=
  (r.map (·.1)).mergeSort (· ≤ ·)

/-- The registry of the bundled library. -/
def bundle : Registry :=
  Bundled.all.map fun b => (b.name, .bundled b)

end Registry

/-- What is needed to render components. -/
structure Renderer where
  registry : Registry
  schema : String → Except Fault Schema
  policy : Policy

namespace Renderer

/-- The renderer of the bundled library. -/
def bundle (policy : Policy) : Renderer :=
  ⟨Registry.bundle, fun name => .ok (Bundled.schemaOf name), policy⟩

/-- The composition in which the markup of a component comes from a given function. -/
def composition (r : Renderer) (component : Value → Value → Render Markup) : Composition where
  isRegistered name := (r.registry.find? name).isSome
  policy := r.policy
  schema := r.schema
  component := component

/-- The name and the render function of a type. -/
def function (r : Renderer) (type : Value) : Except Fault (String × RenderFunction) :=
  match type with
  | .text name =>
    match r.registry.find? name with
    | some f => .ok (name, f)
    | none => .error (.unknownComponent name)
  | v => if v.isKey then .error (.unknownComponent v.print) else .error .notKey

/-- Props with the defaults of the schema of a component. -/
def fill (r : Renderer) (name : String) (props : Value) : Render Members := do
  let schema ← r.schema name
  Render.log (.consulted name)
  return schema.fill (← Members.ofOptional props)

/-- The markup of a component, whose nested components may be nested to a given depth. -/
def component (r : Renderer) : Nat → Value → Value → Render Markup
  | 0, _, _ => Render.fail .nestedTooDeep
  | depth + 1, type, props => do
    let (name, f) ← r.function type
    let bag ← r.fill name props
    f.apply (r.composition (r.component depth)) bag

/-- How many levels components may add to the depth of the data. -/
def allowance : Nat := 1000

/-- The markup of a component of a type. -/
def renderComponent (r : Renderer) (type props : Value) : Render Markup :=
  r.component (props.depth + allowance) type props

/-- The composition for data of a depth. -/
def compositionFor (r : Renderer) (data : Value) : Composition :=
  r.composition (r.component (data.depth + allowance))

/-- The markup of a node. -/
def renderNode (r : Renderer) (node : Invocation) : Render Markup :=
  r.renderComponent (.text node.type) (.object node.props)

/-- The markup of a node given by a value. -/
def render (r : Renderer) (node : Value) : Render Markup := do
  r.renderNode (← Invocation.ofValue node)

/-- The markup of children under a parent. -/
def renderChildren (r : Renderer) (children : Value) (parent : Parent) : Render Markup :=
  (r.compositionFor children).children children parent

/-- The markup of a nested component. -/
def renderChild (r : Renderer) (type props : Value) (index : Option Int) : Render Markup :=
  (r.compositionFor props).child type props index

end Renderer
end DesignKit
