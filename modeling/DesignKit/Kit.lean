import DesignKit.Bundle.Files
import DesignKit.Catalog
import DesignKit.Renderer

/-! # Kits

A kit is a catalog made ready for rendering: every discovered component has a render function, made from its
template when the kit is opened. The template of a component is looked for in all directories of the catalog,
also in those that come before or after the one that has its schema. Schemas are looked up while rendering,
through a cache. -/

namespace DesignKit

/-- A catalog with the render functions of its components and a policy for unknown children. -/
structure Kit where
  catalog : Catalog
  registry : Registry
  policy : Policy

/-- The render function that the template of a component in a directory makes, if there is a template. -/
def Catalog.templateIn? (t : FileTree) (name : String) (directory : Path) : Option (Except Fault RenderFunction) :=
  let path := Layout.templateFile (directory.child name) name
  if t.isFile path then
    match directory.anchor, Bundled.ofName? name with
    | .bundled, some b => some (.ok (.bundled b))
    | _, _ => some (RenderFunction.plain <$> t.read path)
  else none

/-- The render function of a component: that of the first template, or a placeholder. -/
def Catalog.function (c : Catalog) (t : FileTree) (placeholder name : String) : Render RenderFunction :=
  match c.directories.findSome? (templateIn? t name) with
  | some found => Render.lift found
  | none => do
    Render.log (.untemplated name)
    return .missing placeholder

/-- The render functions of components, added to those of a registry. -/
def Catalog.registerAll (c : Catalog) (t : FileTree) (placeholder : String) :
    Registry → List String → Render Registry
  | r, [] => return r
  | r, name :: rest => do
    let f ← c.function t placeholder name
    c.registerAll t placeholder (r.register name f) rest

namespace Kit

/-- Opens a catalog: every discovered component gets a render function. -/
def discover (c : Catalog) (t : FileTree) (policy : Policy) (placeholder : String) : Render Kit := do
  let registry ← c.registerAll t placeholder [] (c.names t)
  return ⟨c, registry, policy⟩

/-- The renderer of a kit, whose schemas are the cached ones or those in the files. -/
def renderer (k : Kit) (t : FileTree) (cache : SchemaCache) : Renderer :=
  ⟨k.registry, fun name => (k.catalog.get t cache name).1, k.policy⟩

/-- The cache after a rendering: it has kept the schemas that were consulted and found. -/
def learn (k : Kit) (t : FileTree) (cache : SchemaCache) (trace : List Event) : SchemaCache :=
  trace.foldl (fun cache event =>
    match event with
    | .consulted name => (k.catalog.load t cache name).2
    | _ => cache) cache

end Kit
end DesignKit
