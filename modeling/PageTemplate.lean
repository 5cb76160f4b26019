import PageTemplate.Base64
import PageTemplate.Binary64.Arithmetic
import PageTemplate.Binary64.Basic
import PageTemplate.Binary64.Integer
import PageTemplate.Binary64.Order
import PageTemplate.Binary64.Reading
import PageTemplate.Binary64.Shortest
import PageTemplate.Calendar.Date
import PageTemplate.Calendar.Duration
import PageTemplate.Calendar.Iso
import PageTemplate.Calendar.Layout
import PageTemplate.Calendar.Moment
import PageTemplate.Calendar.Pattern
import PageTemplate.Calendar.Reading
import PageTemplate.CommandLine.Command
import PageTemplate.CommandLine.Help
import PageTemplate.CommandLine.Outcome
import PageTemplate.CommandLine.Reading
import PageTemplate.CommandLine.Request
import PageTemplate.CommandLine.Word
import PageTemplate.Component.Assignment
import PageTemplate.Component.Basic
import PageTemplate.Component.Conversion
import PageTemplate.Component.Fault
import PageTemplate.Component.Property
import PageTemplate.Component.Reading
import PageTemplate.Component.Shape
import PageTemplate.Condition.Basic
import PageTemplate.Condition.Comparison
import PageTemplate.Condition.Reading
import PageTemplate.Condition.Telling
import PageTemplate.Dictionary
import PageTemplate.Drawing.Alignment
import PageTemplate.Drawing.Canvas
import PageTemplate.Drawing.Fit
import PageTemplate.Drawing.Page
import PageTemplate.Drawing.Symbology
import PageTemplate.Fault.Basic
import PageTemplate.Fault.Failure
import PageTemplate.Fault.Kind
import PageTemplate.Field.Extraction
import PageTemplate.Field.Literal
import PageTemplate.Field.Segments
import PageTemplate.Field.Slots
import PageTemplate.Files.Path
import PageTemplate.Files.Tree
import PageTemplate.Font.Shelf
import PageTemplate.Font.Standard
import PageTemplate.Journal
import PageTemplate.Json.Basic
import PageTemplate.Json.Document
import PageTemplate.Json.Listing
import PageTemplate.Json.ObjectFile
import PageTemplate.Json.Reader
import PageTemplate.Main
import PageTemplate.Picture
import PageTemplate.Platform.Basic
import PageTemplate.Platform.Checksum
import PageTemplate.Platform.Documents
import PageTemplate.Platform.Metrics
import PageTemplate.Platform.Pictures
import PageTemplate.Platform.Plain
import PageTemplate.Platform.Symbols
import PageTemplate.Platform.TrueType
import PageTemplate.Platform.WidthTables
import PageTemplate.Proofs.Base64
import PageTemplate.Proofs.Binary64.Decimal
import PageTemplate.Proofs.Binary64.Range
import PageTemplate.Proofs.Binary64.Rounding
import PageTemplate.Proofs.Calendar.Duration
import PageTemplate.Proofs.CommandLine.Invocation
import PageTemplate.Proofs.CommandLine.Rendering
import PageTemplate.Proofs.Commuting
import PageTemplate.Proofs.Component.Assignment
import PageTemplate.Proofs.Component.Completeness
import PageTemplate.Proofs.Component.Confluence
import PageTemplate.Proofs.Component.Content
import PageTemplate.Proofs.Component.Drawing
import PageTemplate.Proofs.Component.Independence
import PageTemplate.Proofs.Component.Painting
import PageTemplate.Proofs.Component.Parts
import PageTemplate.Proofs.Component.Sharing
import PageTemplate.Proofs.Component.StrayDrawing
import PageTemplate.Proofs.Component.StrayLoading
import PageTemplate.Proofs.Component.Straying
import PageTemplate.Proofs.Component.Supplying
import PageTemplate.Proofs.Component.Unasked
import PageTemplate.Proofs.Component.Waiting
import PageTemplate.Proofs.Component.Writing
import PageTemplate.Proofs.Condition.Changes
import PageTemplate.Proofs.Condition.Deciding
import PageTemplate.Proofs.Condition.Evaluation
import PageTemplate.Proofs.Condition.Nodes
import PageTemplate.Proofs.Condition.Reading
import PageTemplate.Proofs.Condition.Straying
import PageTemplate.Proofs.Condition.Unasked
import PageTemplate.Proofs.Condition.Values
import PageTemplate.Proofs.Dictionary
import PageTemplate.Proofs.Drawing.Colour
import PageTemplate.Proofs.Drawing.Fitting
import PageTemplate.Proofs.Drawing.Placing
import PageTemplate.Proofs.Drawing.Proportional
import PageTemplate.Proofs.Drawing.Searching
import PageTemplate.Proofs.Field.Delivering
import PageTemplate.Proofs.Field.Escaping
import PageTemplate.Proofs.Field.Exclusive
import PageTemplate.Proofs.Field.Numeral
import PageTemplate.Proofs.Field.Pairing
import PageTemplate.Proofs.Field.Segments
import PageTemplate.Proofs.Field.Slots
import PageTemplate.Proofs.Field.Variable
import PageTemplate.Proofs.Files.Writing
import PageTemplate.Proofs.Font.Asking
import PageTemplate.Proofs.Font.Shelf
import PageTemplate.Proofs.Json.Keys
import PageTemplate.Proofs.Registry.Calls
import PageTemplate.Proofs.Registry.Plugins
import PageTemplate.Proofs.Registry.Registering
import PageTemplate.Proofs.Result
import PageTemplate.Proofs.Session.Following
import PageTemplate.Proofs.Session.Outcome
import PageTemplate.Proofs.Session.Spending
import PageTemplate.Proofs.Session.Steady
import PageTemplate.Proofs.Session.Stray
import PageTemplate.Proofs.Settings
import PageTemplate.Proofs.Template.BaseImage
import PageTemplate.Proofs.Template.Confluence
import PageTemplate.Proofs.Template.Discovery
import PageTemplate.Proofs.Template.Drawing
import PageTemplate.Proofs.Template.Journal
import PageTemplate.Proofs.Template.Listing
import PageTemplate.Proofs.Template.Loading
import PageTemplate.Proofs.Template.Progress
import PageTemplate.Proofs.Template.Repeating
import PageTemplate.Proofs.Template.Scaling
import PageTemplate.Proofs.Template.Sharing
import PageTemplate.Proofs.Template.StrayBackground
import PageTemplate.Proofs.Template.StrayLoading
import PageTemplate.Proofs.Template.Supplying
import PageTemplate.Proofs.Template.Telling
import PageTemplate.Proofs.Template.Unasked
import PageTemplate.Proofs.Variables
import PageTemplate.Registry.Basic
import PageTemplate.Registry.Plugin
import PageTemplate.Registry.Target
import PageTemplate.Session
import PageTemplate.Settings
import PageTemplate.Template.Background
import PageTemplate.Template.Builder
import PageTemplate.Text.Blank
import PageTemplate.Text.CaseFold
import PageTemplate.Text.CaseTable
import PageTemplate.Text.Decoding
import PageTemplate.Text.Digit
import PageTemplate.Text.Lowercase
import PageTemplate.Text.Order
import PageTemplate.Text.Printable
import PageTemplate.Text.PrintableTable
import PageTemplate.Text.Quoted
import PageTemplate.Text.Uppercase
import PageTemplate.Text.UppercaseTable
import PageTemplate.Text.Word
import PageTemplate.Text.WordTable
import PageTemplate.Value
import PageTemplate.Variables
