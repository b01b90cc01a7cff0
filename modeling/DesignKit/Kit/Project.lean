import DesignKit.Kit
import DesignKit.Manifest

/-! # The kit of a project

A project's manifest names its component directories, or none for the bundled library, its policy for unknown
children and the placeholder for missing templates. -/

namespace DesignKit.Manifest

/-- The catalog of a project. -/
def catalog (m : Manifest) : Except Fault Catalog := do
  let directories ← m.componentDirectories
  return ⟨if directories.isEmpty then [Bundled.library] else directories⟩

/-- The kit of a project. -/
def kit (m : Manifest) (t : FileTree) : Render Kit := do
  Kit.discover (← m.catalog) t m.policy m.placeholder.print

end DesignKit.Manifest
