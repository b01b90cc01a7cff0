import DesignKit.Proofs.Html.Templates
import DesignKit.Proofs.Library

/-! # What the library renders is well formed

Nested components are rendered by the same renderer with one level less to go, so by induction on the levels
every component fits the vocabulary of the library. -/

namespace DesignKit
open Html

theorem Bundled.template_fits (b : Bundled) {c : Composition} (hc : c.Fits) {props : Members} (h : props.Harmless) :
    (b.template c props).Ensures Fitting := by
  cases b with
  | badge => exact Badge.template_fits c h
  | button => exact Button.template_fits c h
  | card => exact Card.template_fits c h
  | codeBlock => exact CodeBlock.template_fits c h
  | container => exact Container.template_fits hc h
  | faq => exact Faq.template_fits c h
  | hero => exact Hero.template_fits hc h
  | intro => exact Intro.template_fits c h
  | «section» => exact Section.template_fits hc h
  | select => exact Select.template_fits c h.editable_eq
  | stats => exact Stats.template_fits c h
  | table => exact DataTable.template_fits hc h
  | testimonial => exact Testimonial.template_fits c h

namespace Renderer
variable (policy : Policy)

theorem harmless_fill (name : String) {props : Members} (h : props.MarkupFree) :
    ((bundle policy).fill name (.object props)).Ensures Members.Harmless := by
  simp only [fill, Members.ofOptional_object]
  refine Render.Ensures.bind_result fun s hs => Render.Ensures.bind_result fun _ _ => Render.Ensures.pure ?_
  cases hs
  exact Schema.harmless_fill (Bundled.isMarkupFree_schemaOf name) h.ofEntries

theorem component_fits (depth : Nat) (type : Value) {props : Members} (h : props.MarkupFree) :
    ((bundle policy).component depth type (.object props)).Ensures Fitting := by
  induction depth generalizing type props with
  | zero => exact Render.Ensures.fail
  | succ depth ih =>
    refine Render.Ensures.bind_result fun ⟨name, f⟩ hf => ?_
    refine Render.Ensures.bind (harmless_fill policy name h) fun bag hbag => ?_
    obtain ⟨b, -, -, rfl⟩ := function_bundle_eq_ok hf
    -- What the template composes is rendered with one level less, and from the schemas of the library.
    refine b.template_fits ⟨fun type props hp => ih type hp, fun name s hs => ?_⟩ hbag
    cases hs
    exact Bundled.isMarkupFree_schemaOf name

/-- What a node without markup renders to is a well-formed page, whatever texts its props hold. -/
theorem wellFormed_render {node : Value} (hf : node.isMarkupFree = true) {m : Markup}
    (h : ((bundle policy).render node).result = .ok m) : WellFormed library m.print := by
  have hfits : ((bundle policy).render node).Ensures Fitting :=
    Render.Ensures.bind_result fun _ hn => component_fits policy _ _ (Invocation.markupFree_props hf hn)
  exact wellFormed_print library_isLegible (hfits m h)

theorem wellFormed_render_hostile :
    ∃ m, ((bundle .refuse).render (.object [("type", .text "container"), ("props", .object [("children", .list [
        .object [("type", .text "faq"), ("props", .object [("answer", .text "</p>\n<script>")])],
        .object [("type", .text "button"), ("props", .object [("url", .text "\" onclick=\""), ("text", .text "\">")])],
        .object [("type", .text "table"), ("props", .object [
          ("columns", .list [.object [("component", .object [("name", .text "badge"),
            ("props", .object [("text", .text "{name}")])])]]),
          ("data", .list [.object [("name", .text "</td>")]])])]])])])).result = .ok m ∧ WellFormed library m.print :=
  exists_ok (by decide +kernel) fun _ hm => wellFormed_render .refuse rfl hm

/-- The tags of the templates alone do not suffice: the break element comes from a text. -/
theorem not_wellFormed_templates :
    ¬ ∀ (policy : Policy) (node : Value) (m : Markup), node.isMarkupFree = true →
      ((bundle policy).render node).result = .ok m → WellFormed templates m.print := by
  intro h
  obtain ⟨m, hm, hn⟩ : ∃ m, ((bundle .refuse).render (.object [("type", .text "faq"),
      ("props", .object [("question", .text "Q"), ("answer", .text "a\nb")])])).result = .ok m ∧
      ¬ Reader.run templates ⟨.text, []⟩ (Markup.chars m) = some ⟨.text, []⟩ := ⟨_, rfl, by decide +kernel⟩
  exact hn (wellFormed_print_iff.mp (h .refuse _ m rfl hm))

end Renderer
end DesignKit
