import WorldQuery.Assoc
import WorldQuery.Coercion
import WorldQuery.Component
import WorldQuery.Datum
import WorldQuery.Discovery
import WorldQuery.Fault
import WorldQuery.Felt
import WorldQuery.Http.Body
import WorldQuery.Http.Encoding
import WorldQuery.Http.Reply
import WorldQuery.Http.Server
import WorldQuery.Issue
import WorldQuery.Json.Reader
import WorldQuery.Json.Writer
import WorldQuery.Layout
import WorldQuery.Name
import WorldQuery.Number.Binary64
import WorldQuery.Number.Digits
import WorldQuery.Number.Numeral
import WorldQuery.Number.Plain
import WorldQuery.Query.Argument
import WorldQuery.Query.Document
import WorldQuery.Query.Execution
import WorldQuery.Query.Grouping
import WorldQuery.Query.Leaf
import WorldQuery.Query.MetaDepth
import WorldQuery.Query.Outcome
import WorldQuery.Query.Overlap
import WorldQuery.Query.Reader
import WorldQuery.Query.Resolution
import WorldQuery.Query.Response
import WorldQuery.Query.ScalarLiteral
import WorldQuery.Query.Site
import WorldQuery.Query.Token
import WorldQuery.Query.Validation
import WorldQuery.Record
import WorldQuery.Scalar
import WorldQuery.Schema.Basic
import WorldQuery.Schema.Build
import WorldQuery.Schema.Meta
import WorldQuery.Schema.Object
import WorldQuery.Service
import WorldQuery.Settings.Basic
import WorldQuery.Settings.Connection
import WorldQuery.Settings.DatabaseUrl
import WorldQuery.Statement
import WorldQuery.Storage
import WorldQuery.Store
import WorldQuery.Text.Blank
import WorldQuery.Text.Case.Context
import WorldQuery.Text.Case.Lower
import WorldQuery.Text.Case.Run
import WorldQuery.Text.Case.Upper
import WorldQuery.Text.Digit
import WorldQuery.Text.Percent
import WorldQuery.Text.Pieces
import WorldQuery.Text.Printable
import WorldQuery.Text.Quoted
import WorldQuery.Text.Ranges
import WorldQuery.Text.Surrogate
import WorldQuery.Text.Utf8
import WorldQuery.Text.Word
import WorldQuery.Time.Calendar
import WorldQuery.Time.Iso
import WorldQuery.Time.Moment
import WorldQuery.Time.Stamp
import WorldQuery.Value
import WorldQuery.Proofs.Discovery.Fixpoint
import WorldQuery.Proofs.Assoc
import WorldQuery.Proofs.Store
import WorldQuery.Proofs.Component.History
import WorldQuery.Proofs.Discovery.Store
import WorldQuery.Proofs.Discovery.Obstacles
import WorldQuery.Proofs.Name.TypeName
import WorldQuery.Proofs.Schema.Assembly
import WorldQuery.Proofs.Schema.Types
import WorldQuery.Proofs.Schema.Collecting
import WorldQuery.Proofs.Schema.Shape
import WorldQuery.Proofs.Statement.Marks
import WorldQuery.Proofs.Statement.Naming
import WorldQuery.Proofs.Component.Rows
import WorldQuery.Proofs.Discovery.Rows
import WorldQuery.Proofs.Storage.Provenance
import WorldQuery.Proofs.Query.Nodes
import WorldQuery.Proofs.Schema.Lookup
import WorldQuery.Proofs.Query.Soundness
import WorldQuery.Proofs.Storage.Decoding
import WorldQuery.Proofs.Query.Drift
import WorldQuery.Proofs.Query.Agreement
import WorldQuery.Proofs.Discovery.Growth
import WorldQuery.Proofs.Schema.Refusal
import WorldQuery.Proofs.Http.Availability
import WorldQuery.Proofs.Name.SnakeCase
import WorldQuery.Proofs.Storage.Tables
import WorldQuery.Proofs.Service.Lifecycle
import WorldQuery.Proofs.Service.Overlap
import WorldQuery.Proofs.Http.Lifecycle
import WorldQuery.Proofs.Name.Quotes
import WorldQuery.Proofs.Query.Fields
import WorldQuery.Proofs.Query.Ownership
import WorldQuery.Proofs.Query.References
import WorldQuery.Proofs.Component.Catalog
import WorldQuery.Proofs.Query.Listing
import WorldQuery.Proofs.Text.Pieces
import WorldQuery.Proofs.Layout.Grammar
import WorldQuery.Proofs.Layout.Writing
import WorldQuery.Proofs.Felt
import WorldQuery.Proofs.Query.WireForm
import WorldQuery.Proofs.Query.Answers
import WorldQuery.Proofs.Discovery.Insertion
import WorldQuery.Proofs.Number.Digits
import WorldQuery.Proofs.Time.Calendar
import WorldQuery.Proofs.Time.Clock
import WorldQuery.Proofs.Time.Days
import WorldQuery.Proofs.Time.Written
import WorldQuery.Proofs.Time.Instant
import WorldQuery.Proofs.Time.Stability
import WorldQuery.Proofs.Storage.Columns
import WorldQuery.Proofs.Store.Order
import WorldQuery.Proofs.Component.Newest
import WorldQuery.Proofs.Number.Numerals
import WorldQuery.Proofs.Felt.Texts
import WorldQuery.Proofs.Felt.Spelling
import WorldQuery.Proofs.Time.Stamp
import WorldQuery.Proofs.Component.Stamp
import WorldQuery.Proofs.Layout.References
import WorldQuery.Proofs.Name.CamelCase
import WorldQuery.Proofs.Schema.Declarations
import WorldQuery.Proofs.Store.Letters
import WorldQuery.Proofs.Time.StampOrder
import WorldQuery.Proofs.Component.OldestFirst
import WorldQuery.Proofs.Storage.Spellings
import WorldQuery.Proofs.Storage.Spellings
