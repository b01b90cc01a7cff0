import DesignKit.Checked
import DesignKit.Text.Upper

/-! # Component schemas

A schema declares the props of a component, each with the value used when it is absent, and the slots of
its children, each with props for the child at that place. A schema is read from a JSON object and written
back as one; members that it does not know are ignored. -/

namespace DesignKit

/-- A declared prop. -/
structure Field where
  name : String
  default : Value
  type : Option String
  label : Option String

/-- A place for a child: default props and the expected type. -/
structure Slot where
  defaults : Members
  type : Option String

/-- What is known about a component. -/
structure Schema where
  name : String
  label : String
  category : Option String
  description : Option String
  fields : List Field
  children : Option (List Slot)

namespace Field

/-- A field with a type and a label. -/
def declared (name type label : String) (default : Value) : Field :=
  ⟨name, default, some type, some label⟩

/-- The name of a field is a text that is not empty. -/
def nameOf : Value → Checked String
  | .text "" => .fail .emptyName (.text "")
  | v => Checked.text v

/-- A field from an object. A field without a default has the empty text. -/
def ofValue : Value → Checked Field :=
  Checked.record "FieldSpec" fun m =>
    Field.mk <$> Checked.required m "name" nameOf <*> .ok (m.getD "default" (.text "")) <*>
      Checked.optional m "type" none Checked.textOrNull <*> Checked.optional m "label" none Checked.textOrNull

end Field

/-- A text or null as a value. -/
def Value.ofText? : Option String → Value
  | some s => .text s
  | none => .null

/-- A field as an object. -/
def Field.toValue (f : Field) : Value :=
  .object [("name", .text f.name), ("default", f.default), ("type", .ofText? f.type), ("label", .ofText? f.label)]

namespace Slot

/-- A slot from an object. -/
def ofValue : Value → Checked Slot :=
  Checked.record "SlotSpec" fun m =>
    Slot.mk <$> Checked.optional m "defaults" [] Checked.object <*>
      Checked.optional m "type" none Checked.textOrNull

/-- A slot as an object. -/
def toValue (s : Slot) : Value :=
  .object [("defaults", .object s.defaults), ("type", .ofText? s.type)]

/-- The slots from an object, none for null. -/
def listOfValue : Value → Checked (Option (List Slot))
  | .null => .ok none
  | v => some <$> Checked.record "ChildrenSpec" (fun m => Checked.optional m "slots" [] (Checked.list ofValue)) v

/-- The slots as an object, null when none are declared. -/
def listToValue : Option (List Slot) → Value
  | none => .null
  | some slots => .object [("slots", .list (slots.map toValue))]

end Slot

namespace Schema

/-- The kind under which schemas are reported. -/
def kind : String := "ComponentSchema"

/-- A schema from an object. -/
def ofValue : Value → Checked Schema :=
  Checked.record kind fun m =>
    Schema.mk <$> Checked.optional m "name" "" Checked.text <*> Checked.optional m "label" "" Checked.text <*>
      Checked.optional m "category" none Checked.textOrNull <*>
      Checked.optional m "description" none Checked.textOrNull <*>
      Checked.optional m "fields" [] (Checked.list Field.ofValue) <*>
      Checked.optional m "children" none Slot.listOfValue

/-- A schema as an object. -/
def toValue (s : Schema) : Value :=
  .object [("name", .text s.name), ("label", .text s.label), ("category", .ofText? s.category),
    ("description", .ofText? s.description), ("fields", .list (s.fields.map Field.toValue)),
    ("children", Slot.listToValue s.children)]

/-- The schema without any declaration. -/
def blank : Schema := ⟨"", "", none, none, [], none⟩

/-- The schema of a component that has none: it declares nothing, and its label is its name. -/
def fallback (name : String) : Schema :=
  { blank with name := name, label := Text.upperFirst name }

/-- The schema declares neither props nor children. -/
def isEmpty (s : Schema) : Bool :=
  s.fields.isEmpty && s.children.isNone

/-- The first field of a name. -/
def field? (s : Schema) (name : String) : Option Field :=
  s.fields.find? (·.name == name)

/-- The slot of the child at an index. -/
def slot? (s : Schema) (index : Int) : Option Slot :=
  if index < 0 then none else s.children.bind (·[index.toNat]?)

end Schema
end DesignKit
