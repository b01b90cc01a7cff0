import DesignKit.Schema

/-! # Schema caches

A cache keeps the schemas that were loaded, each under the name of its component. A schema once kept stays:
keeping another one under its name changes nothing. -/

namespace DesignKit

/-- Loaded schemas under the names of their components. -/
abbrev SchemaCache := List (String × Schema)

namespace SchemaCache

/-- The schema kept under a name. -/
def find? (c : SchemaCache) (name : String) : Option Schema :=
  c.lookup name

/-- Keeps a schema under a name, unless there is one already. -/
def keep (c : SchemaCache) (name : String) (schema : Schema) : SchemaCache :=
  match c.find? name with
  | some _ => c
  | none => c ++ [(name, schema)]

end SchemaCache
end DesignKit
