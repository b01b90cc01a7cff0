import DesignKit.Component.Badge
import DesignKit.Component.Button
import DesignKit.Component.Card
import DesignKit.Component.CodeBlock
import DesignKit.Component.Container
import DesignKit.Component.DataTable
import DesignKit.Component.Faq
import DesignKit.Component.Hero
import DesignKit.Component.Intro
import DesignKit.Component.Section
import DesignKit.Component.Select
import DesignKit.Component.Stats
import DesignKit.Component.Testimonial

/-! # The bundled library

The components that come with the library, each with its schema, its template and its stylesheets. -/

namespace DesignKit

/-- A bundled component. -/
inductive Bundled where
  | badge
  | button
  | card
  | codeBlock
  | container
  | faq
  | hero
  | intro
  | section
  | select
  | stats
  | table
  | testimonial
deriving DecidableEq, Repr

namespace Bundled

/-- All bundled components, in the order of their names. -/
def all : List Bundled :=
  [badge, button, card, codeBlock, container, faq, hero, intro, .section, select, stats, table, testimonial]

/-- The schema of a component. -/
def schema : Bundled → Schema
  | badge => Badge.schema
  | button => Button.schema
  | card => Card.schema
  | codeBlock => CodeBlock.schema
  | container => Container.schema
  | faq => Faq.schema
  | hero => Hero.schema
  | intro => Intro.schema
  | .section => Section.schema
  | select => Select.schema
  | stats => Stats.schema
  | table => DataTable.schema
  | testimonial => Testimonial.schema

/-- The name of a component. -/
def name (b : Bundled) : String := b.schema.name

/-- The template of a component. -/
def template : Bundled → Template
  | badge => Badge.template
  | button => Button.template
  | card => Card.template
  | codeBlock => CodeBlock.template
  | container => Container.template
  | faq => Faq.template
  | hero => Hero.template
  | intro => Intro.template
  | .section => Section.template
  | select => Select.template
  | stats => Stats.template
  | table => DataTable.template
  | testimonial => Testimonial.template

/-- The rules that every style variant of a component shares. -/
def baseStyle : Bundled → Stylesheet
  | badge => Badge.baseStyle
  | button => Button.baseStyle
  | card => Card.baseStyle
  | codeBlock => CodeBlock.baseStyle
  | container => Container.baseStyle
  | faq => Faq.baseStyle
  | hero => Hero.baseStyle
  | intro => Intro.baseStyle
  | .section => Section.baseStyle
  | select => Select.baseStyle
  | stats => Stats.baseStyle
  | table => DataTable.baseStyle
  | testimonial => Testimonial.baseStyle

/-- The rules of the style variant `plato` of a component. -/
def platoStyle : Bundled → Stylesheet
  | badge => Badge.platoStyle
  | button => Button.platoStyle
  | card => Card.platoStyle
  | codeBlock => CodeBlock.platoStyle
  | container => Container.platoStyle
  | faq => Faq.platoStyle
  | hero => Hero.platoStyle
  | intro => Intro.platoStyle
  | .section => Section.platoStyle
  | select => Select.platoStyle
  | stats => Stats.platoStyle
  | table => DataTable.platoStyle
  | testimonial => Testimonial.platoStyle

/-- The component of a name. -/
def ofName? (name : String) : Option Bundled :=
  all.find? (·.name == name)

/-- The schema of a component of the library, empty for a name that it does not have. -/
def schemaOf (name : String) : Schema :=
  match ofName? name with
  | some b => b.schema
  | none => Schema.fallback name

end Bundled
end DesignKit
