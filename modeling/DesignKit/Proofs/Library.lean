import DesignKit.Proofs.Children
import DesignKit.Renderer

/-! # The renderer of the bundled library

Its registry holds the bundled components under their names, and a component is rendered by its template from
the given props and the defaults of its schema. -/

namespace DesignKit

theorem Members.ofOptional_object (m : Members) : ofOptional (.object m) = .ok (ofEntries m) := by
  cases m with
  | nil => exact ofValue_object []
  | cons entry rest => exact ofValue_object (entry :: rest)

namespace Registry

theorem lookup_bundled (bs : List Bundled) (name : String) :
    (bs.map fun b => (b.name, RenderFunction.bundled b)).lookup name = (bs.find? (·.name == name)).map .bundled := by
  induction bs with
  | nil => rfl
  | cons b rest ih =>
    rw [List.map_cons, List.lookup_cons, List.find?_cons, ih, Bool.beq_comm]
    cases b.name == name <;> rfl

theorem find?_bundle (name : String) : bundle.find? name = (Bundled.ofName? name).map .bundled :=
  lookup_bundled Bundled.all name

end Registry

namespace Renderer
variable {policy : Policy} {name : String} {b : Bundled}

theorem isRegistered_bundle (policy : Policy) (component : Value → Value → Render Markup) (name : String) :
    ((bundle policy).composition component).isRegistered name = (Bundled.ofName? name).isSome := by
  show (Registry.bundle.find? name).isSome = _
  rw [Registry.find?_bundle, Option.isSome_map]

/-- A type that has a render function in the library is the name of a bundled component. -/
theorem function_bundle_eq_ok {type : Value} {f : RenderFunction} (h : (bundle policy).function type = .ok (name, f)) :
    ∃ b, type = .text name ∧ Bundled.ofName? name = some b ∧ f = .bundled b := by
  unfold function at h
  split at h
  · rename_i given
    split at h
    · rename_i found hfound
      cases h
      obtain ⟨b, hb, rfl⟩ := Option.map_eq_some_iff.mp ((Registry.find?_bundle name).symm.trans hfound)
      exact ⟨b, rfl, hb, rfl⟩
    · cases h
  · split at h <;> cases h

theorem function_bundle (h : Bundled.ofName? name = some b) :
    (bundle policy).function (.text name) = .ok (name, .bundled b) := by
  have hfind : (bundle policy).registry.find? name = some (.bundled b) := by
    rw [show (bundle policy).registry = Registry.bundle from rfl, Registry.find?_bundle, h, Option.map_some]
  simp only [function, hfind]

theorem fill_bundle (h : Bundled.ofName? name = some b) (props : Value) :
    (bundle policy).fill name props = do
      Render.log (.consulted name)
      return b.schema.fill (← Members.ofOptional props) := by
  have hschema : (bundle policy).schema name = .ok b.schema := by
    simp only [bundle, Bundled.schemaOf, h]
  simp only [fill, hschema, Render.monadLift_eq, Render.lift_ok, pure_bind]

theorem component_of_error {r : Renderer} {type : Value} {fault : Fault} (h : r.function type = .error fault)
    (depth : Nat) (props : Value) : r.component (depth + 1) type props = Render.fail fault := by
  simp only [component, h]
  rfl

theorem component_bundle (h : Bundled.ofName? name = some b) (depth : Nat) (props : Value) :
    (bundle policy).component (depth + 1) (.text name) props = (bundle policy).fill name props >>=
      b.template ((bundle policy).composition ((bundle policy).component depth)) := by
  simp only [component, function_bundle h, Render.monadLift_eq, Render.lift_ok, pure_bind, RenderFunction.apply]

/-- What could be rendered is a component of the library. -/
theorem known_of_component {depth : Nat} {type props : Value} {m : Markup}
    (h : ((bundle policy).component depth type props).result = .ok m) :
    ∃ name b, type = .text name ∧ Bundled.ofName? name = some b := by
  cases depth with
  | zero => cases h
  | succ depth =>
    obtain ⟨⟨name, f⟩, hf, -⟩ := Render.bind_eq_ok.mp h
    obtain ⟨b, htype, hb, -⟩ := function_bundle_eq_ok hf
    exact ⟨name, b, htype, hb⟩

end Renderer
end DesignKit
