import DesignKit.Bundle
import DesignKit.Bundle.Files
import DesignKit.Catalog
import DesignKit.Catalog.Css
import DesignKit.Catalog.Layout
import DesignKit.Checked
import DesignKit.Checked.Rejection
import DesignKit.Cli
import DesignKit.Cli.Arguments
import DesignKit.Cli.Command
import DesignKit.Color
import DesignKit.Colorway
import DesignKit.Component.Badge
import DesignKit.Component.Button
import DesignKit.Component.Card
import DesignKit.Component.CodeBlock
import DesignKit.Component.Container
import DesignKit.Component.DataTable
import DesignKit.Component.Faq
import DesignKit.Component.Hero
import DesignKit.Component.Intro
import DesignKit.Component.Section
import DesignKit.Component.Select
import DesignKit.Component.Stats
import DesignKit.Component.Testimonial
import DesignKit.Console.Action
import DesignKit.Console.Emoji
import DesignKit.Console.StyleName
import DesignKit.Console.Styled
import DesignKit.Console.Table
import DesignKit.Console.Wrap
import DesignKit.Css
import DesignKit.Fault
import DesignKit.FileTree
import DesignKit.Json.Printer
import DesignKit.Json.Reader
import DesignKit.Kit
import DesignKit.Kit.Project
import DesignKit.Main
import DesignKit.Manifest
import DesignKit.Markup
import DesignKit.Markup.Helper
import DesignKit.Number.Arithmetic
import DesignKit.Number.Binary
import DesignKit.Number.Reading
import DesignKit.Number.Shortest
import DesignKit.Number.Text
import DesignKit.Path
import DesignKit.Proofs.AttributeList
import DesignKit.Proofs.Calm
import DesignKit.Proofs.Catalog.Discovery
import DesignKit.Proofs.Catalog.Loading
import DesignKit.Proofs.Catalog.Origin
import DesignKit.Proofs.Catalog.Session
import DesignKit.Proofs.Catalog.Stylesheets
import DesignKit.Proofs.Checked
import DesignKit.Proofs.Children
import DesignKit.Proofs.ClassList
import DesignKit.Proofs.Cli.Output
import DesignKit.Proofs.Cli.Tokens
import DesignKit.Proofs.CodeLines
import DesignKit.Proofs.Color
import DesignKit.Proofs.Congruence
import DesignKit.Proofs.Console
import DesignKit.Proofs.Context
import DesignKit.Proofs.Css.Reader
import DesignKit.Proofs.DataTable.Grid
import DesignKit.Proofs.DataTable.Head
import DesignKit.Proofs.DataTable.Sorting
import DesignKit.Proofs.Defaults
import DesignKit.Proofs.DistinctKeys
import DesignKit.Proofs.Emptiness
import DesignKit.Proofs.Escape
import DesignKit.Proofs.FileTree
import DesignKit.Proofs.Html.Element
import DesignKit.Proofs.Html.Fits
import DesignKit.Proofs.Html.Library
import DesignKit.Proofs.Html.Page
import DesignKit.Proofs.Html.Tags
import DesignKit.Proofs.Html.Templates
import DesignKit.Proofs.Html.WellFormed
import DesignKit.Proofs.Interpolation
import DesignKit.Proofs.Levels
import DesignKit.Proofs.Library
import DesignKit.Proofs.Manifest
import DesignKit.Proofs.MarkupFree
import DesignKit.Proofs.Members
import DesignKit.Proofs.Nesting
import DesignKit.Proofs.Policy
import DesignKit.Proofs.Precedence
import DesignKit.Proofs.References
import DesignKit.Proofs.Render
import DesignKit.Proofs.Scale
import DesignKit.Proofs.ScaleSchema
import DesignKit.Proofs.Schema
import DesignKit.Proofs.Schema.Written
import DesignKit.Proofs.Selection
import DesignKit.Proofs.Shape
import DesignKit.Proofs.Sizes
import DesignKit.Proofs.Strain
import DesignKit.Proofs.Substance
import DesignKit.Proofs.Token.Absence
import DesignKit.Proofs.Token.Colors
import DesignKit.Proofs.Token.Colorways
import DesignKit.Proofs.Token.Edits
import DesignKit.Proofs.Token.Files
import DesignKit.Proofs.Token.Lookup
import DesignKit.Proofs.Token.Names
import DesignKit.Proofs.Token.Overrides
import DesignKit.Proofs.Token.Reading
import DesignKit.Proofs.Token.Sections
import DesignKit.Proofs.Token.Strain
import DesignKit.Proofs.Toml
import DesignKit.Proofs.Unread
import DesignKit.Proofs.Wrapper
import DesignKit.Props
import DesignKit.Props.Interpolation
import DesignKit.Render
import DesignKit.Renderer
import DesignKit.Scale
import DesignKit.Schema
import DesignKit.Schema.Cache
import DesignKit.Stylesheet
import DesignKit.Text.Blank
import DesignKit.Text.DecimalDigit
import DesignKit.Text.Escape
import DesignKit.Text.LineBreak
import DesignKit.Text.Lower
import DesignKit.Text.Printable
import DesignKit.Text.Quoted
import DesignKit.Text.Search
import DesignKit.Text.Upper
import DesignKit.Text.Width
import DesignKit.Token
import DesignKit.Token.Document
import DesignKit.Token.File
import DesignKit.Toml.Document
import DesignKit.Toml.Moment
import DesignKit.Toml.Reader
import DesignKit.Toml.Value
import DesignKit.Value
import DesignKit.Value.Text
import DesignKit.Verification
