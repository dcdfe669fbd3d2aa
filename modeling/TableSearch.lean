import TableSearch.Calendar.Date
import TableSearch.Calendar.DateTime
import TableSearch.Calendar.Reading
import TableSearch.CodePoint.Category
import TableSearch.CodePoint.Class
import TableSearch.CodePoint.Folding
import TableSearch.CodePoint.Property
import TableSearch.CodePoint.Script
import TableSearch.CodePoint.Set
import TableSearch.Command
import TableSearch.CommandLine.Form
import TableSearch.CommandLine.Help
import TableSearch.CommandLine.Invocation
import TableSearch.CommandLine.Run
import TableSearch.Condition
import TableSearch.Config
import TableSearch.Config.Json
import TableSearch.Config.Reader
import TableSearch.Context
import TableSearch.Context.Json
import TableSearch.Dict
import TableSearch.Engine
import TableSearch.Engine.Json
import TableSearch.Filter
import TableSearch.Filter.Compile
import TableSearch.Filter.Json
import TableSearch.Hit
import TableSearch.Http.Handler
import TableSearch.Http.Message
import TableSearch.Http.Route
import TableSearch.Json.Basic
import TableSearch.Json.Printer
import TableSearch.Json.Reader
import TableSearch.Json.Record
import TableSearch.Like
import TableSearch.Main
import TableSearch.Mutation
import TableSearch.Number.Decimal
import TableSearch.Number.Double
import TableSearch.Page
import TableSearch.Page.Json
import TableSearch.Phrase
import TableSearch.Phrase.Json
import TableSearch.Proofs.Dict
import TableSearch.Proofs.Memory
import TableSearch.Proofs.Mutation
import TableSearch.Proofs.Regex.Program
import TableSearch.Regex.Bracket
import TableSearch.Regex.Escape
import TableSearch.Regex.Flags
import TableSearch.Regex.Node
import TableSearch.Regex.Program
import TableSearch.Regex.Reader
import TableSearch.Regex.Search
import TableSearch.Regex.Template
import TableSearch.Registry
import TableSearch.Report
import TableSearch.Request
import TableSearch.Request.Json
import TableSearch.Schema
import TableSearch.Schema.Json
import TableSearch.Source
import TableSearch.Source.Labels
import TableSearch.Source.Redirection
import TableSearch.Sql.Cell
import TableSearch.Sql.Clause
import TableSearch.Sql.Database
import TableSearch.Sql.Declaration
import TableSearch.Sql.Identifier
import TableSearch.Sql.Like
import TableSearch.Sql.Migration
import TableSearch.Sql.Snapshot
import TableSearch.Sql.Table
import TableSearch.Store
import TableSearch.Store.Faults
import TableSearch.Store.Memory
import TableSearch.Suggestion
import TableSearch.Text.Ascii
import TableSearch.Text.Blank
import TableSearch.Text.Integer
import TableSearch.Text.Utf8
import TableSearch.Toml.Reader
import TableSearch.Toml.Scalar
import TableSearch.Toml.Table
import TableSearch.Toml.Text
import TableSearch.Url.Domain
import TableSearch.Url.Host
import TableSearch.Url.Mapping
import TableSearch.Url.Web
import TableSearch.Value
import TableSearch.Value.Json
import TableSearch.Value.Kind
import TableSearch.Proofs.Regex.Order
import TableSearch.Proofs.Regex.Literal
import TableSearch.Proofs.Preview
import TableSearch.Proofs.Query
import TableSearch.Proofs.Assembly
import TableSearch.Proofs.PageSpec
import TableSearch.Proofs.PageChain
import TableSearch.Proofs.Config
import TableSearch.Proofs.ReplaceReport
import TableSearch.Proofs.Reading
import TableSearch.Proofs.Run
import TableSearch.Proofs.AuditReplay
import TableSearch.Proofs.ClosedGate
import TableSearch.Proofs.FailedChange
import TableSearch.Proofs.Rewriting
import TableSearch.Proofs.Sweep
import TableSearch.Proofs.Encoding
import TableSearch.Proofs.LikeOperand
import TableSearch.Proofs.ClauseText
import TableSearch.Proofs.ClauseMeaning
import TableSearch.Proofs.Overlay
import TableSearch.Proofs.Interleaving
import TableSearch.Proofs.KeyedTable
import TableSearch.Proofs.SaveInPlace
import TableSearch.Proofs.History
import TableSearch.Proofs.ValueOrder
import TableSearch.Proofs.Suggestions
import TableSearch.Proofs.Calendar.Days
import TableSearch.Proofs.Calendar.Instant
import TableSearch.Proofs.Calendar.WrittenOrder
import TableSearch.Proofs.DateFilter
import TableSearch.Proofs.Digits
import TableSearch.Proofs.JsonText
import TableSearch.Proofs.WireForm
import TableSearch.Proofs.SuggestionList
import TableSearch.Proofs.Spans
import TableSearch.Proofs.Display
import TableSearch.Proofs.Regex.Escaping
import TableSearch.Proofs.LiteralPhrase
import TableSearch.Proofs.DecimalForm
import TableSearch.Proofs.FilterValues
import TableSearch.Proofs.LooseEquality
import TableSearch.Proofs.IntegerFilter
import TableSearch.Proofs.SuggestedFilter
import TableSearch.Proofs.Assignments
import TableSearch.Proofs.Calendar.Bounds
import TableSearch.Proofs.Calendar.RoundTrip
import TableSearch.Proofs.NormalValues
import TableSearch.Proofs.RangeFilter
import TableSearch.Proofs.FilterMatrix
import TableSearch.Proofs.IntegerSpelling
import TableSearch.Proofs.PreloadValues
import TableSearch.Proofs.SuggestedKeys
import TableSearch.Proofs.HitContexts
import TableSearch.Proofs.ConfiguredRegistry
import TableSearch.Proofs.QuotedName
import TableSearch.Proofs.ClauseShape
import TableSearch.Proofs.NumberText
import TableSearch.Proofs.SearchMany
