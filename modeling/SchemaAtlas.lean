import SchemaAtlas.Text.Alphanumeric
import SchemaAtlas.Text.Blank
import SchemaAtlas.Text.Digit
import SchemaAtlas.Text.Printable
import SchemaAtlas.Text.Uppercase
import SchemaAtlas.Pattern.Basic
import SchemaAtlas.Text.Hexadecimal
import SchemaAtlas.Text.Numeral
import SchemaAtlas.Script.Comment
import SchemaAtlas.Script.Nesting
import SchemaAtlas.Name
import SchemaAtlas.Schema.Basic
import SchemaAtlas.Clause.Attributes
import SchemaAtlas.Clause.Column
import SchemaAtlas.Clause.Constraint
import SchemaAtlas.Schema.Relationship
import SchemaAtlas.Schema.Validation
import SchemaAtlas.Script.Reading
import SchemaAtlas.Diagram.Basic
import SchemaAtlas.Diagram.Dot
import SchemaAtlas.Diagram.Drawing
import SchemaAtlas.Diagram.Mermaid
import SchemaAtlas.Dictionary.Document
import SchemaAtlas.Dictionary.Html
import SchemaAtlas.Schema.Summary
import SchemaAtlas.Cache
import SchemaAtlas.Json.Basic
import SchemaAtlas.Json.Export
import SchemaAtlas.Schema.Elapsed
import SchemaAtlas.Settings
import SchemaAtlas.Json.Reader
import SchemaAtlas.Service.Basic
import SchemaAtlas.Script.Journal
import SchemaAtlas.CommandLine.Arguments
import SchemaAtlas.FileTree.Basic
import SchemaAtlas.CommandLine.Basic
import SchemaAtlas.Main
import SchemaAtlas.Proofs.Clause.Amendment
import SchemaAtlas.Proofs.Script.Origin
import SchemaAtlas.Proofs.Clause.ColumnFlags
import SchemaAtlas.Proofs.Schema.Coherence
import SchemaAtlas.Proofs.Schema.ForeignKeys
import SchemaAtlas.Proofs.Schema.Keys
import SchemaAtlas.Proofs.Pattern.Keyword
import SchemaAtlas.Proofs.Pattern.Search
import SchemaAtlas.Proofs.Printing.Attributes
import SchemaAtlas.Proofs.Printing.Clause
import SchemaAtlas.Proofs.Printing.Column
import SchemaAtlas.Proofs.Printing.ForeignKey
import SchemaAtlas.Proofs.Printing.RoundTrip
import SchemaAtlas.Proofs.Script.Failure
import SchemaAtlas.Proofs.Clause.Insertion
import SchemaAtlas.Proofs.Schema.Placement
import SchemaAtlas.Proofs.Schema.Accounting
import SchemaAtlas.Proofs.Schema.Rearrangement
import SchemaAtlas.Proofs.Schema.LiteralContents
import SchemaAtlas.Proofs.Script.Headings
import SchemaAtlas.Proofs.Script.NormalForm
import SchemaAtlas.Proofs.Script.Quotation
import SchemaAtlas.Proofs.Script.Segmentation
import SchemaAtlas.Proofs.Script.Contents
import SchemaAtlas.Proofs.Script.Delimiters
import SchemaAtlas.Proofs.Script.Passage
import SchemaAtlas.Proofs.Schema.DelimitedNames
import SchemaAtlas.Proofs.Cache.Interleaving
import SchemaAtlas.Proofs.Cache.Recency
import SchemaAtlas.Proofs.Dictionary.Page
import SchemaAtlas.Proofs.Dictionary.Agreement
import SchemaAtlas.Proofs.Diagram.ScriptDrawing
import SchemaAtlas.Proofs.Diagram.MermaidNames
import SchemaAtlas.Proofs.Diagram.NodeNames
import SchemaAtlas.Proofs.Diagram.DrawnEdges
import SchemaAtlas.Proofs.Diagram.DisplayTitles
import SchemaAtlas.Proofs.Service.SchemaEndpoint
import SchemaAtlas.Proofs.Schema.Retention
import SchemaAtlas.Proofs.Clause.QuotedContents
import SchemaAtlas.Proofs.Clause.AttributeOrder
import SchemaAtlas.Proofs.Clause.DefaultCapture
import SchemaAtlas.Proofs.Script.GroupGrammar
import SchemaAtlas.Proofs.Script.Resplitting
import SchemaAtlas.Proofs.Clause.Containment
import SchemaAtlas.Proofs.Clause.CheckClause
import SchemaAtlas.Proofs.Clause.TypeRendering
import SchemaAtlas.Proofs.Diagram.Projection
import SchemaAtlas.Proofs.Schema.NameReports
import SchemaAtlas.Proofs.Script.Spelling
import SchemaAtlas.Proofs.Clause.ValueSlice
