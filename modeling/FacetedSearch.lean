import FacetedSearch.Checksum
import FacetedSearch.Config
import FacetedSearch.Config.Toml
import FacetedSearch.Document
import FacetedSearch.Duration
import FacetedSearch.Error
import FacetedSearch.Facet
import FacetedSearch.Facet.Bucket
import FacetedSearch.Facet.Execute
import FacetedSearch.Facet.Json
import FacetedSearch.Facet.Mode
import FacetedSearch.Facet.Page
import FacetedSearch.Facet.Prepare
import FacetedSearch.Generation
import FacetedSearch.Generation.Pool
import FacetedSearch.Generation.Session
import FacetedSearch.Index
import FacetedSearch.Index.Search
import FacetedSearch.Json.Parser
import FacetedSearch.Json.Printer
import FacetedSearch.Json.Record
import FacetedSearch.Json.Token
import FacetedSearch.Json.Tree
import FacetedSearch.Notifier
import FacetedSearch.Number
import FacetedSearch.Number.Binary
import FacetedSearch.Number.Hex
import FacetedSearch.Number.Literal
import FacetedSearch.Number.Shortest
import FacetedSearch.Number.Sortable
import FacetedSearch.Order
import FacetedSearch.Query
import FacetedSearch.Range
import FacetedSearch.Range.Parser
import FacetedSearch.Reader
import FacetedSearch.Schema
import FacetedSearch.SortType
import FacetedSearch.SortedMap
import FacetedSearch.SortedSet
import FacetedSearch.TermTable
import FacetedSearch.Text.CharClass
import FacetedSearch.Text.Quoted
import FacetedSearch.TextSet
import FacetedSearch.Toml.Document
import FacetedSearch.Toml.Key
import FacetedSearch.Toml.Layout
import FacetedSearch.Toml.Moment
import FacetedSearch.Toml.Names
import FacetedSearch.Toml.Number
import FacetedSearch.Toml.Text
import FacetedSearch.Toml.Value
import FacetedSearch.View
import FacetedSearch.Proofs.Generation.Operation
import FacetedSearch.Proofs.Generation.Pool
import FacetedSearch.Proofs.Generation.Lifecycle
import FacetedSearch.Proofs.Reader.Run
import FacetedSearch.Proofs.Generation.Coherence
import FacetedSearch.Proofs.Facet.History
import FacetedSearch.Proofs.Facet.Answer
import FacetedSearch.Proofs.Facet.Grouping
import FacetedSearch.Proofs.Facet.Reference
import FacetedSearch.Proofs.Index.Content
import FacetedSearch.Proofs.Index.Search
import FacetedSearch.Proofs.Facet.DrillDown
import FacetedSearch.Proofs.Generation.Interleaving
import FacetedSearch.Proofs.Number.Order
import FacetedSearch.Proofs.Number.Whole
import FacetedSearch.Proofs.Range.Interval
import FacetedSearch.Proofs.Facet.Single
import FacetedSearch.Proofs.Number.Units
import FacetedSearch.Proofs.Number.TotalOrder
import FacetedSearch.Proofs.Number.Widening
import FacetedSearch.Proofs.Range.Typing
import FacetedSearch.Proofs.Facet.Fault
import FacetedSearch.Proofs.Reader.Refusal
import FacetedSearch.Proofs.Facet.RangeGroups
import FacetedSearch.Proofs.Json.Lexing
import FacetedSearch.Proofs.Json.RoundTrip
import FacetedSearch.Proofs.Json.Record
import FacetedSearch.Proofs.Facet.WireFormat
import FacetedSearch.Proofs.Facet.Agreement
import FacetedSearch.Proofs.Facet.Unmatched
import FacetedSearch.Proofs.Facet.Paging
import FacetedSearch.Proofs.Number.Rounding
import FacetedSearch.Proofs.Number.Decimal
import FacetedSearch.Proofs.Number.RoundTrip
import FacetedSearch.Proofs.Number.Readable
import FacetedSearch.Proofs.Range.Recognition
import FacetedSearch.Proofs.Range.Exactness
import FacetedSearch.Proofs.Range.Grammar
import FacetedSearch.Proofs.Range.Undeclared
import FacetedSearch.Proofs.Number.Exact
import FacetedSearch.Proofs.Number.Line
import FacetedSearch.Proofs.Range.Floating
import FacetedSearch.Proofs.Facet.WholeNumbers
import FacetedSearch.Proofs.Facet.Sum
import FacetedSearch.Proofs.Number.Canonical
import FacetedSearch.Proofs.Facet.Extreme
import FacetedSearch.Proofs.Generation.FieldValues
import FacetedSearch.Proofs.Index.Intake
import FacetedSearch.Proofs.Index.Arrangement
import FacetedSearch.Proofs.Generation.DocumentTerms
import FacetedSearch.Proofs.Generation.Thrift
import FacetedSearch.Proofs.Facet.Repetition
import FacetedSearch.Proofs.Facet.ScanCount
import FacetedSearch.Proofs.Notifier.Roll
import FacetedSearch.Proofs.Notifier.Broadcast
import FacetedSearch.Proofs.Index.Limit
import FacetedSearch.Proofs.Facet.Remaining
import FacetedSearch.Proofs.Reader.Use
import FacetedSearch.Proofs.Reader.Diary
import FacetedSearch.Proofs.Reader.Warming
import FacetedSearch.Proofs.Reader.Retention
import FacetedSearch.Proofs.TextSet
