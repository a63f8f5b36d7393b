import Rubric.CommandLine.Arguments
import Rubric.CommandLine.Run
import Rubric.Config.Basic
import Rubric.Config.Store
import Rubric.Counter.Registry
import Rubric.Counter.Style
import Rubric.Counter.System
import Rubric.Counter.Weights
import Rubric.Css.Content
import Rubric.Css.Stylesheet
import Rubric.Directive
import Rubric.Draft
import Rubric.Environment
import Rubric.Files.Basic
import Rubric.Files.Error
import Rubric.Files.Path
import Rubric.Host
import Rubric.Labelling.Document
import Rubric.Labelling.Drawing
import Rubric.Labelling.Error
import Rubric.Labelling.Run
import Rubric.Labelling.State
import Rubric.Labelling.Walk
import Rubric.Main
import Rubric.Markdown.Block.Basic
import Rubric.Markdown.Block.Parser
import Rubric.Markdown.Builder
import Rubric.Markdown.Entity
import Rubric.Markdown.Event
import Rubric.Markdown.HeadingAttrs
import Rubric.Markdown.Inline.Basic
import Rubric.Markdown.Inline.Emphasis
import Rubric.Markdown.Inline.Parser
import Rubric.Markdown.Line
import Rubric.Markdown.Link
import Rubric.Markdown.Marker
import Rubric.Markdown.RawHtml
import Rubric.Numeral.Additive
import Rubric.Numeral.Chinese
import Rubric.Numeral.Ethiopic
import Rubric.Numeral.Positional
import Rubric.Reference
import Rubric.Scope
import Rubric.Selector
import Rubric.Series
import Rubric.Settings
import Rubric.Template.Basic
import Rubric.Template.Context
import Rubric.Template.Cursor
import Rubric.Template.Error
import Rubric.Template.Parser
import Rubric.Template.Printer
import Rubric.Text.Alphanumeric
import Rubric.Text.Blank
import Rubric.Text.Folding
import Rubric.Text.Punctuation
import Rubric.Toml.Quoted
import Rubric.Toml.Reader
import Rubric.Toml.Scalar
import Rubric.Toml.Value
import Rubric.Tree.Attrs
import Rubric.Tree.Document
import Rubric.Tree.Html
import Rubric.Tree.Node
import Rubric.Proofs.Tree.Attrs
import Rubric.Proofs.Outline.Scheme
import Rubric.Proofs.Labelling.Changes
import Rubric.Proofs.Outline.Labels
import Rubric.Proofs.Outline.Sections
import Rubric.Proofs.Outline.Tracking
import Rubric.Proofs.Labelling.Steps
import Rubric.Proofs.Css.Selectors
import Rubric.Proofs.Stylesheet.Consistency
import Rubric.Proofs.Stylesheet.Repeats
import Rubric.Proofs.Template.Context
import Rubric.Proofs.Labelling.Agreement
import Rubric.Proofs.Labelling.Content
import Rubric.Proofs.Labelling.Moments
import Rubric.Proofs.Scope.Rooted
import Rubric.Proofs.Labelling.Sharing
import Rubric.Proofs.Labelling.Turns
import Rubric.Proofs.Labelling.Ancestors
import Rubric.Proofs.Scope.Kinds
import Rubric.Proofs.Labelling.Nesting
import Rubric.Proofs.Labelling.OwnLabels
import Rubric.Proofs.Labelling.Recursion
import Rubric.Proofs.Labelling.Visits
import Rubric.Proofs.Labelling.Stack
import Rubric.Proofs.Labelling.Written
import Rubric.Proofs.Labelling.Lineage
import Rubric.Proofs.Labelling.ItemLabels
import Rubric.Proofs.Labelling.OpenSections
import Rubric.Proofs.Labelling.NestedLists
import Rubric.Proofs.Template.Printing
import Rubric.Proofs.Labelling.Counted
import Rubric.Proofs.Labelling.Resolved
import Rubric.Proofs.Labelling.Directives
import Rubric.Proofs.Labelling.Failures
import Rubric.Proofs.Counter.Predefined
import Rubric.Proofs.Tree.Forest
import Rubric.Proofs.Tree.Html
import Rubric.Proofs.CommandLine.Output
import Rubric.Proofs.CommandLine.Inlined
import Rubric.Proofs.Toml.Documents
import Rubric.Proofs.Config.RoundTrip
import Rubric.Proofs.Counter.Shelf
import Rubric.Proofs.Template.Faults
import Rubric.Proofs.Reference.Markers
import Rubric.Proofs.Reference.Links
import Rubric.Proofs.Css.Strings
import Rubric.Proofs.Series.Interning
import Rubric.Proofs.Stylesheet.Drawn
import Rubric.Proofs.Series.Chains
import Rubric.Proofs.Stylesheet.ReadBack
import Rubric.Proofs.Tree.Replacement
import Rubric.Proofs.Counter.Enumeration
import Rubric.Proofs.Counter.Greedy
import Rubric.Proofs.Counter.Myriads
import Rubric.Proofs.Tree.Traversal
import Rubric.Proofs.Tree.TextContent
import Rubric.Proofs.Counter.Positional
import Rubric.Proofs.Markdown.Nesting
import Rubric.Proofs.Counter.Padding
import Rubric.Proofs.Tree.Classes
