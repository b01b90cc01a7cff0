import DesignKit.Markup.Helper
import DesignKit.Props.Interpolation

/-! # Rendering

A rendering has a result, which is markup or a fault, and a trace of what happened on the way: the children
that were skipped, the schemas that were consulted and, before any rendering, the templates that were found
missing. The trace is kept when the rendering fails.

A template composes its markup from that of other components through a `Composition`, which knows the
registered types, the policy for unknown children, the schemas and how to render a component. -/

namespace DesignKit

/-- What happens during a rendering and its preparation. -/
inductive Event where
  /-- A component has no template. -/
  | untemplated (name : String)
  /-- A child of an unknown type was left out. -/
  | skipped (type : String) (index : Option Int)
  /-- The schema of a component was consulted. -/
  | consulted (name : String)
deriving DecidableEq, Repr

/-- The warning about an event, if it deserves one. -/
def Event.warning? : Event → Option String
  | untemplated name => some ("Component '" ++ name ++ "' has no template; rendering placeholder")
  | skipped type none => some ("Skipping unknown child component '" ++ type ++ "'")
  | skipped type (some index) =>
    some ("Skipping unknown child component '" ++ type ++ "' at index " ++ Number.intText index)
  | consulted _ => none

/-- A result and the events that led to it. -/
structure Render (α : Type) where
  result : Except Fault α
  trace : List Event

namespace Render

def pure {α : Type} (a : α) : Render α := ⟨.ok a, []⟩

/-- One rendering after another; a fault ends both. -/
def bind {α β : Type} (x : Render α) (f : α → Render β) : Render β :=
  match x.result with
  | .ok a => ⟨(f a).result, x.trace ++ (f a).trace⟩
  | .error fault => ⟨.error fault, x.trace⟩

instance : Monad Render where
  pure := pure
  bind := bind

/-- A result without events. -/
def lift {α : Type} (x : Except Fault α) : Render α := ⟨x, []⟩

instance : MonadLift (Except Fault) Render := ⟨lift⟩

/-- A fault. -/
def fail {α : Type} (fault : Fault) : Render α := ⟨.error fault, []⟩

/-- An event. -/
def log (e : Event) : Render Unit := ⟨.ok (), [e]⟩

/-- A rendering whose fault becomes its result. -/
def attempt {α : Type} (x : Render α) : Render (Except Fault α) := ⟨.ok x.result, x.trace⟩

/-- The warnings of a rendering, in order. -/
def warnings {α : Type} (x : Render α) : List String := x.trace.filterMap Event.warning?

end Render

/-- What becomes of a child of an unknown type. -/
inductive Policy where
  /-- The rendering fails. -/
  | refuse
  /-- The child is left out. -/
  | skip
deriving DecidableEq, Repr

/-- The policy of a name. -/
def Policy.ofName? (name : String) : Option Policy :=
  if name == "raise" then some .refuse else if name == "skip" then some .skip else none

/-- The name of a policy. -/
def Policy.name : Policy → String
  | refuse => "raise"
  | skip => "skip"

/-- The component whose slots children are placed under. -/
inductive Parent where
  | none
  | named (name : String)
  | given (schema : Schema)

/-- A node of a composition: a component type and its props. -/
structure Invocation where
  type : String
  props : Members

/-- The kind under which nodes are reported. -/
def Invocation.kind : String := "ComponentInvocation"

/-- The node given by a value. -/
def Invocation.ofValue (v : Value) : Except Fault Invocation :=
  match v.members? with
  | none => .error .noMembers
  | some m => do
    let entries ← Entries.ofValue ((m.get "props").orElse (.object []))
    match entries.toMembers? "props" with
    | .ok props => return ⟨((m.get "type").orElse (.text "")).print, props⟩
    | .error ps => throw (.invalid ⟨Invocation.kind, ps⟩)

/-- The node given by a value that must be an object with a type and, perhaps, an object of props. -/
def Invocation.checked (v : Value) : Except Fault Invocation :=
  let reading := Checked.record kind (fun m =>
    Invocation.mk <$> Checked.required m "type" Checked.text <*> Checked.optional m "props" [] Checked.object) v
  (reading.toExcept kind).mapError .invalid

/-- What a template may use of the components around it. -/
structure Composition where
  /-- A type is registered. -/
  isRegistered : String → Bool
  policy : Policy
  /-- The schema of a component, empty when it has none. -/
  schema : String → Except Fault Schema
  /-- The markup of a component of a type with props. -/
  component : Value → Value → Render Markup

/-- A template: the markup of a component from its props. -/
abbrev Template := Composition → Members → Render Markup

namespace Composition

/-- The schema of a component. -/
def consult (c : Composition) (name : String) : Render Schema := do
  let schema ← c.schema name
  Render.log (.consulted name)
  return schema

/-- Whether a child of a type is to be rendered. An unknown type is refused or skipped, as the policy says;
`none` stands for a child without a type. -/
def admits (c : Composition) (type : Option Value) (index : Option Int) : Render Bool := do
  let shown := (type.map Value.print).getD ""
  let unknown : Render Bool :=
    match c.policy with
    | .refuse => Render.fail (.unknownComponent shown)
    | .skip => do
      Render.log (.skipped shown index)
      return false
  match type with
  | some (.text name) => if c.isRegistered name then return true else unknown
  | some v => if v.isKey then unknown else Render.fail .notKey
  | none => unknown

/-- The markup of a nested component, none when its type is skipped. -/
def child (c : Composition) (type props : Value) (index : Option Int) : Render Markup := do
  if ← c.admits (some type) index then
    return [.embedded (← c.component type props)]
  else return []

/-- The key under which a child is told its index. -/
def indexKey : String := "_child_index"

/-- The bag of a child at an index: its props under the parent's slot, and the index. -/
def childProps (parent : Schema) (index : Nat) (props : Members) : Members :=
  (parent.place index props).set indexKey (.int index)

/-- The markup of children from an index on. Children that are skipped or empty leave nothing behind, but
count. -/
def childList (c : Composition) (parent : Schema) : Nat → List Value → Render (List Markup)
  | _, [] => return []
  | index, entry :: rest => do
    let node ← Invocation.ofValue entry
    if ← c.admits (some (.text node.type)) (some (index : Int)) then
      let m ← c.component (.text node.type) (.object (childProps parent index node.props))
      let others ← c.childList parent (index + 1) rest
      return if m.isEmpty then others else m :: others
    else c.childList parent (index + 1) rest

/-- The schema whose slots children are placed under. -/
def parentSchema (c : Composition) : Parent → Render Schema
  | .none => return Schema.blank
  | .named name => if name == "" then return Schema.blank else c.consult name
  | .given schema => return schema

/-- The markup of children, one below the other. -/
def children (c : Composition) (entries : Value) (parent : Parent) : Render Markup := do
  if entries.truthy then
    let schema ← c.parentSchema parent
    let found ← c.childList schema 0 (← Helper.items entries)
    return Markup.joinLines found
  else return []

end Composition
end DesignKit
