import ViewLayers.Assets
import ViewLayers.Calendar
import ViewLayers.Calendar.Reader
import ViewLayers.CommandLine.Arguments
import ViewLayers.CommandLine.Build
import ViewLayers.CommandLine.Command
import ViewLayers.CommandLine.Compile
import ViewLayers.CommandLine.Help
import ViewLayers.CommandLine.Outcome
import ViewLayers.CommandLine.Run
import ViewLayers.Compile
import ViewLayers.Constants
import ViewLayers.Constants.File
import ViewLayers.Entries
import ViewLayers.Error
import ViewLayers.Facets
import ViewLayers.FileTree
import ViewLayers.Json.Basic
import ViewLayers.Json.Canonical
import ViewLayers.Json.Exact
import ViewLayers.Json.Lexeme
import ViewLayers.Json.Numeral
import ViewLayers.Json.Reader
import ViewLayers.Layers
import ViewLayers.Main
import ViewLayers.Notice
import ViewLayers.Notice.Filter
import ViewLayers.Number.Binary64
import ViewLayers.Number.Decimal
import ViewLayers.Number.Layout
import ViewLayers.Number.Shortest
import ViewLayers.PathPattern
import ViewLayers.PathPattern.Search
import ViewLayers.Proofs.Additive.Append
import ViewLayers.Proofs.Additive.Combined
import ViewLayers.Proofs.Additive.Counter
import ViewLayers.Proofs.Additive.Layered
import ViewLayers.Proofs.Additive.Mixed
import ViewLayers.Proofs.Assets.Compiled
import ViewLayers.Proofs.Assets.Forms
import ViewLayers.Proofs.Assets.Queue
import ViewLayers.Proofs.Assets.Surviving
import ViewLayers.Proofs.Build.Discovery
import ViewLayers.Proofs.Build.Independence
import ViewLayers.Proofs.Build.Outcomes
import ViewLayers.Proofs.Build.Workers
import ViewLayers.Proofs.CommandLine.AllOrNothing
import ViewLayers.Proofs.CommandLine.Stages
import ViewLayers.Proofs.Constants.Flattening
import ViewLayers.Proofs.Entries
import ViewLayers.Proofs.Files.Names
import ViewLayers.Proofs.Files.Places
import ViewLayers.Proofs.Files.Writes
import ViewLayers.Proofs.Json.Agreement
import ViewLayers.Proofs.Json.Atoms
import ViewLayers.Proofs.Json.CanonicalForm
import ViewLayers.Proofs.Json.Keys
import ViewLayers.Proofs.Json.Lexemes
import ViewLayers.Proofs.Json.Members
import ViewLayers.Proofs.Json.Reading
import ViewLayers.Proofs.Layers.Assets
import ViewLayers.Proofs.Layers.Effective
import ViewLayers.Proofs.Layers.Merged
import ViewLayers.Proofs.Layers.Removal
import ViewLayers.Proofs.Layers.Settings
import ViewLayers.Proofs.Layers.Substitution
import ViewLayers.Proofs.Layers.Views
import ViewLayers.Proofs.Layers.WithoutDefault
import ViewLayers.Proofs.Overlay
import ViewLayers.Proofs.Overlay.Absorption
import ViewLayers.Proofs.Overlay.Associative
import ViewLayers.Proofs.Overlay.Paths
import ViewLayers.Proofs.Procedure.Branches
import ViewLayers.Proofs.Procedure.Counted
import ViewLayers.Proofs.Procedure.General
import ViewLayers.Proofs.Procedure.Reach
import ViewLayers.Proofs.Procedure.Selection
import ViewLayers.Proofs.Procedure.WellFormed
import ViewLayers.Proofs.Script.Blanking
import ViewLayers.Proofs.Script.Characters
import ViewLayers.Proofs.Script.Header
import ViewLayers.Proofs.Script.Lines
import ViewLayers.Proofs.Script.Literal
import ViewLayers.Proofs.Script.RawCharacters
import ViewLayers.Proofs.Script.Reading
import ViewLayers.Proofs.Script.Shape
import ViewLayers.Proofs.Script.UniqueReading
import ViewLayers.Proofs.Sources.Grouping
import ViewLayers.Proofs.Sources.Layering
import ViewLayers.Proofs.Sources.Repeated
import ViewLayers.Proofs.Sources.Single
import ViewLayers.Proofs.Text.ByteOrder
import ViewLayers.Proofs.Text.Entities
import ViewLayers.Proofs.Text.Markup
import ViewLayers.Proofs.Text.PercentSigns
import ViewLayers.Proofs.Text.Placeholder
import ViewLayers.Proofs.Text.SafeMarkup
import ViewLayers.Proofs.Text.Template
import ViewLayers.Proofs.Tree.Document
import ViewLayers.Proofs.Value.Paths
import ViewLayers.Proofs.Yaml.Keys
import ViewLayers.Resolve
import ViewLayers.Script.Literal
import ViewLayers.Script.Render
import ViewLayers.Sources
import ViewLayers.Statement
import ViewLayers.Step
import ViewLayers.Terminal
import ViewLayers.Text.CharRange
import ViewLayers.Text.Lowercase
import ViewLayers.Text.Markup
import ViewLayers.Text.Placeholder
import ViewLayers.Text.Quoted
import ViewLayers.Text.Visible
import ViewLayers.Text.Word
import ViewLayers.Toml.Basic
import ViewLayers.Toml.Reader
import ViewLayers.Toml.Scalar
import ViewLayers.Toml.Table
import ViewLayers.Toml.Text
import ViewLayers.Tree
import ViewLayers.Value.Basic
import ViewLayers.Value.Key
import ViewLayers.Value.Overlay
import ViewLayers.Value.Text
import ViewLayers.Yaml.Cursor
import ViewLayers.Yaml.Fault
import ViewLayers.Yaml.Node
import ViewLayers.Yaml.Node.OfTokens
import ViewLayers.Yaml.Reader
import ViewLayers.Yaml.Scalar
import ViewLayers.Yaml.Spelling
import ViewLayers.Yaml.Token
import ViewLayers.Yaml.Token.Names
import ViewLayers.Yaml.Token.Reader
import ViewLayers.Yaml.Token.Scalars
import ViewLayers.Yaml.Writer
