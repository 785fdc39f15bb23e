import RowGate.Client.Basic
import RowGate.Client.Builder
import RowGate.Client.Session
import RowGate.Config.Basic
import RowGate.Config.Json
import RowGate.Domain.Bidi
import RowGate.Domain.Joining
import RowGate.Domain.Name
import RowGate.Domain.Table
import RowGate.Envelope.Basic
import RowGate.Envelope.Reading
import RowGate.Envelope.Status
import RowGate.Error
import RowGate.Grammar
import RowGate.Http
import RowGate.Json.Basic
import RowGate.Json.Reader
import RowGate.Json.Record
import RowGate.Json.Token
import RowGate.Json.Writer
import RowGate.Keyed
import RowGate.Main
import RowGate.Number.Decimal
import RowGate.Number.Double
import RowGate.Number.Reading
import RowGate.OpenApi.Document
import RowGate.OpenApi.Json
import RowGate.Plan
import RowGate.Predicate
import RowGate.Proofs.Client.Pairs
import RowGate.Proofs.Client.RoundTrip
import RowGate.Proofs.Grammar
import RowGate.Proofs.Outcome
import RowGate.Proofs.Plan
import RowGate.Proofs.Query.Gather
import RowGate.Proofs.Query.Group
import RowGate.Proofs.Service.Effects
import RowGate.Proofs.Service.Handlers
import RowGate.Proofs.Sql.Bindings
import RowGate.Proofs.Sql.Lexer
import RowGate.Proofs.Sql.Parameters
import RowGate.Proofs.Sql.Statement
import RowGate.Proofs.Store.History
import RowGate.Proofs.Store.Integrity
import RowGate.Proofs.Store.Values
import RowGate.Proofs.Store.Writes
import RowGate.Proofs.Text.Percent
import RowGate.Proofs.Text.Pieces
import RowGate.Proofs.Text.Utf8
import RowGate.Query.Basic
import RowGate.Query.Fragment
import RowGate.Query.Group
import RowGate.Query.Parse
import RowGate.Regex.Basic
import RowGate.Regex.Tabular
import RowGate.Resource.Basic
import RowGate.Resource.Registry
import RowGate.Schema
import RowGate.Service.Basic
import RowGate.Service.Route
import RowGate.Service.Standalone
import RowGate.Sql.Piece
import RowGate.Sql.Statement
import RowGate.Store.Basic
import RowGate.Store.Filter
import RowGate.Store.Joining
import RowGate.Store.Pattern
import RowGate.Store.Select
import RowGate.Store.Value
import RowGate.Text.Blank
import RowGate.Text.Composition
import RowGate.Text.Fold
import RowGate.Text.Hex
import RowGate.Text.Percent
import RowGate.Text.Pieces
import RowGate.Text.Punycode
import RowGate.Text.Table
import RowGate.Text.Utf8
import RowGate.Url.Basic
import RowGate.Url.Host
import RowGate.Url.Reader
import RowGate.Proofs.Query.Syntax
import RowGate.Proofs.Query.Strict
import RowGate.Proofs.Sql.Agreement
import RowGate.Proofs.Number.Rounding
import RowGate.Proofs.Number.Shortest
import RowGate.Proofs.Number.Reading
import RowGate.Proofs.Store.Addressing
import RowGate.Proofs.Number.Integers
import RowGate.Proofs.Store.Integers
import RowGate.Proofs.Store.Paging
import RowGate.Proofs.Service.Paging
import RowGate.Proofs.Client.Membership
import RowGate.Proofs.Client.Pages
import RowGate.Proofs.Store.References
import RowGate.Proofs.Url.Push
import RowGate.Proofs.Service.Path
import RowGate.Proofs.Client.Addressing
import RowGate.Proofs.Store.Conditions
import RowGate.Proofs.Query.Names
import RowGate.Proofs.Keyed
import RowGate.Proofs.Json.Objects
import RowGate.Proofs.Service.Assignment
import RowGate.Proofs.Service.Starting
import RowGate.Proofs.Service.Keys
import RowGate.Proofs.Query.Faults
import RowGate.Proofs.Store.Faults
import RowGate.Proofs.Resource.Registry
import RowGate.Proofs.Service.Faults
import RowGate.Proofs.Json.Numbers
import RowGate.Proofs.Json.Tokens
import RowGate.Proofs.Json.RoundTrip
import RowGate.Proofs.Envelope.Reading
import RowGate.Proofs.Service.Envelopes
import RowGate.Proofs.OpenApi.Document
import RowGate.Proofs.OpenApi.References
import RowGate.Proofs.Service.Segments
import RowGate.Proofs.Service.Documented
import RowGate.Proofs.Query.Positions
import RowGate.Proofs.Query.Triples
import RowGate.Proofs.Query.Parentheses
import RowGate.Proofs.Query.Cuts
import RowGate.Proofs.Sql.Lexemes
import RowGate.Proofs.Sql.Quoting
import RowGate.Proofs.Store.Order
import RowGate.Proofs.Store.Selecting
import RowGate.Proofs.Store.Sorting
import RowGate.Proofs.Store.Joining
import RowGate.Proofs.Store.OuterJoins
import RowGate.Proofs.Store.Loading
import RowGate.Proofs.Store.Verdicts
import RowGate.Proofs.Store.Patterns
import RowGate.Proofs.Store.Comparing
import RowGate.Proofs.Store.Repeating
import RowGate.Proofs.Service.Repeating
import RowGate.Proofs.Service.Reordering
