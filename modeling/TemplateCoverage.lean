import TemplateCoverage.Card
import TemplateCoverage.Catalog
import TemplateCoverage.Catalog.Gaps
import TemplateCoverage.Catalog.Merge
import TemplateCoverage.Catalog.Schema
import TemplateCoverage.Colour
import TemplateCoverage.Combination
import TemplateCoverage.Combination.Groups
import TemplateCoverage.CommandLine
import TemplateCoverage.CommandLine.Arguments
import TemplateCoverage.Comment
import TemplateCoverage.Coverage
import TemplateCoverage.Document
import TemplateCoverage.Double
import TemplateCoverage.Double.Places
import TemplateCoverage.Double.Shortest
import TemplateCoverage.Entry
import TemplateCoverage.Files.Path
import TemplateCoverage.Files.Tree
import TemplateCoverage.Json
import TemplateCoverage.Json.Lexeme
import TemplateCoverage.Json.Number
import TemplateCoverage.Json.Printer
import TemplateCoverage.Json.Reader
import TemplateCoverage.Label
import TemplateCoverage.Label.Table
import TemplateCoverage.Layout
import TemplateCoverage.Locale
import TemplateCoverage.Logging
import TemplateCoverage.Logging.Level
import TemplateCoverage.Main
import TemplateCoverage.Record
import TemplateCoverage.Report
import TemplateCoverage.Run
import TemplateCoverage.Run.Store
import TemplateCoverage.Script
import TemplateCoverage.Sorted.Map
import TemplateCoverage.Sorted.Order
import TemplateCoverage.Sorted.Set
import TemplateCoverage.Synthesis
import TemplateCoverage.Taxonomy
import TemplateCoverage.Taxonomy.Schema
import TemplateCoverage.Text.Blank
import TemplateCoverage.Text.Case
import TemplateCoverage.Text.CaseTable
import TemplateCoverage.Text.HiddenTable
import TemplateCoverage.Text.Quoted
import TemplateCoverage.Text.Split
import TemplateCoverage.Yaml.Block
import TemplateCoverage.Yaml.Document
import TemplateCoverage.Yaml.Node
import TemplateCoverage.Yaml.Problem
import TemplateCoverage.Yaml.Scalar
import TemplateCoverage.Yaml.Spot
import TemplateCoverage.Yaml.Token
import TemplateCoverage.Yaml.Tokens
import TemplateCoverage.Proofs.Catalog.Alike
import TemplateCoverage.Proofs.Catalog.Answered
import TemplateCoverage.Proofs.Catalog.Commuting
import TemplateCoverage.Proofs.Catalog.Entries
import TemplateCoverage.Proofs.Catalog.Equality
import TemplateCoverage.Proofs.Catalog.Gaps
import TemplateCoverage.Proofs.Catalog.Growth
import TemplateCoverage.Proofs.Catalog.History
import TemplateCoverage.Proofs.Catalog.Merge
import TemplateCoverage.Proofs.Catalog.Nesting
import TemplateCoverage.Proofs.Catalog.Offence
import TemplateCoverage.Proofs.Catalog.Orphans
import TemplateCoverage.Proofs.Catalog.Respelling
import TemplateCoverage.Proofs.Catalog.Sections
import TemplateCoverage.Proofs.Catalog.Shape
import TemplateCoverage.Proofs.Catalog.Storable
import TemplateCoverage.Proofs.Catalog.Uniqueness
import TemplateCoverage.Proofs.Catalog.Written
import TemplateCoverage.Proofs.Combination.Groups
import TemplateCoverage.Proofs.Comment
import TemplateCoverage.Proofs.Comment.Quotes
import TemplateCoverage.Proofs.Coverage
import TemplateCoverage.Proofs.Document.Cards
import TemplateCoverage.Proofs.Document.Comments
import TemplateCoverage.Proofs.Document.Joining
import TemplateCoverage.Proofs.Document.Lines
import TemplateCoverage.Proofs.Document.Merging
import TemplateCoverage.Proofs.Document.Rewriting
import TemplateCoverage.Proofs.Document.RoundTrip
import TemplateCoverage.Proofs.Document.Spacing
import TemplateCoverage.Proofs.Double
import TemplateCoverage.Proofs.Except
import TemplateCoverage.Proofs.Files.Directory
import TemplateCoverage.Proofs.Files.Making
import TemplateCoverage.Proofs.Files.Order
import TemplateCoverage.Proofs.Files.Tree
import TemplateCoverage.Proofs.Files.Way
import TemplateCoverage.Proofs.Files.Writing
import TemplateCoverage.Proofs.Json.Extent
import TemplateCoverage.Proofs.Json.Lines
import TemplateCoverage.Proofs.Json.Literal
import TemplateCoverage.Proofs.Json.Nesting
import TemplateCoverage.Proofs.Json.Number
import TemplateCoverage.Proofs.Json.Object
import TemplateCoverage.Proofs.Json.Printed
import TemplateCoverage.Proofs.Json.Tokens
import TemplateCoverage.Proofs.Layout
import TemplateCoverage.Proofs.Locale
import TemplateCoverage.Proofs.Logging
import TemplateCoverage.Proofs.Run.Atomicity
import TemplateCoverage.Proofs.Run.Convergence
import TemplateCoverage.Proofs.Run.Effect
import TemplateCoverage.Proofs.Run.Failure
import TemplateCoverage.Proofs.Run.Frame
import TemplateCoverage.Proofs.Run.Handover
import TemplateCoverage.Proofs.Run.Precedence
import TemplateCoverage.Proofs.Run.Repetition
import TemplateCoverage.Proofs.Run.Runs
import TemplateCoverage.Proofs.Run.Separation
import TemplateCoverage.Proofs.Run.Verdict
import TemplateCoverage.Proofs.Sorted.Map
import TemplateCoverage.Proofs.Sorted.Set
import TemplateCoverage.Proofs.Synthesis
import TemplateCoverage.Proofs.Taxonomy.Declared
import TemplateCoverage.Proofs.Text.Blank
import TemplateCoverage.Proofs.Yaml.Document
