import CorpusQuery.Access
import CorpusQuery.CommandLine.Arguments
import CorpusQuery.CommandLine.Command
import CorpusQuery.CommandLine.Identifiers
import CorpusQuery.CommandLine.Loading
import CorpusQuery.CommandLine.Queries
import CorpusQuery.CommandLine.Run
import CorpusQuery.CommandLine.Session
import CorpusQuery.CommandLine.Survey
import CorpusQuery.Expression.Grammar
import CorpusQuery.Expression.Lexeme
import CorpusQuery.Expression.Printer
import CorpusQuery.Expression.Reading
import CorpusQuery.Expression.Stored
import CorpusQuery.Expression.Tree
import CorpusQuery.Filter.Condition
import CorpusQuery.Filter.Noted
import CorpusQuery.Filter.Reference
import CorpusQuery.Filter.Target
import CorpusQuery.Filter.Value
import CorpusQuery.Json.Printer
import CorpusQuery.Json.Reader
import CorpusQuery.Json.Value
import CorpusQuery.Main
import CorpusQuery.MatchId.Basic
import CorpusQuery.MatchId.Codec
import CorpusQuery.Number.Binary64
import CorpusQuery.Number.Decimal
import CorpusQuery.Number.Integer
import CorpusQuery.Number.Reading
import CorpusQuery.Number.Written
import CorpusQuery.Problem
import CorpusQuery.Proofs.Access
import CorpusQuery.Proofs.CommandLine.Identifiers
import CorpusQuery.Proofs.Compiled
import CorpusQuery.Proofs.Expression.Follow
import CorpusQuery.Proofs.Expression.Groups
import CorpusQuery.Proofs.Expression.Junctions
import CorpusQuery.Proofs.Expression.Lexemes
import CorpusQuery.Proofs.Expression.Numerals
import CorpusQuery.Proofs.Expression.Operands
import CorpusQuery.Proofs.Expression.Places
import CorpusQuery.Proofs.Expression.Progress
import CorpusQuery.Proofs.Expression.Reach
import CorpusQuery.Proofs.Expression.Recognition
import CorpusQuery.Proofs.Expression.RoundTrip
import CorpusQuery.Proofs.Expression.Scan
import CorpusQuery.Proofs.Expression.Shape
import CorpusQuery.Proofs.Expression.Texts
import CorpusQuery.Proofs.Filter.Composition
import CorpusQuery.Proofs.Filter.Confinement
import CorpusQuery.Proofs.Filter.Correlation
import CorpusQuery.Proofs.Filter.EmptyLists
import CorpusQuery.Proofs.Filter.Ids
import CorpusQuery.Proofs.Filter.Joins
import CorpusQuery.Proofs.Filter.Likeness
import CorpusQuery.Proofs.Filter.Literals
import CorpusQuery.Proofs.Filter.Logic
import CorpusQuery.Proofs.Filter.Operands
import CorpusQuery.Proofs.Filter.Placeholders
import CorpusQuery.Proofs.Filter.Predicates
import CorpusQuery.Proofs.Filter.Quotation
import CorpusQuery.Proofs.Filter.References
import CorpusQuery.Proofs.Filter.Relations
import CorpusQuery.Proofs.Filter.Sealing
import CorpusQuery.Proofs.Filter.Terms
import CorpusQuery.Proofs.Filter.UnknownLayers
import CorpusQuery.Proofs.Filter.Variants
import CorpusQuery.Proofs.MatchId.Field
import CorpusQuery.Proofs.MatchId.Parts
import CorpusQuery.Proofs.MatchId.RoundTrip
import CorpusQuery.Proofs.Number.Integer
import CorpusQuery.Proofs.Number.Rounding
import CorpusQuery.Proofs.Number.Shortest
import CorpusQuery.Proofs.Problem
import CorpusQuery.Proofs.Schema.Construction
import CorpusQuery.Proofs.Schema.Hierarchy
import CorpusQuery.Proofs.Schema.Saving
import CorpusQuery.Proofs.Search.Adjacency
import CorpusQuery.Proofs.Search.Bindings
import CorpusQuery.Proofs.Search.ChainAgreement
import CorpusQuery.Proofs.Search.ChainPlan
import CorpusQuery.Proofs.Search.Columns
import CorpusQuery.Proofs.Search.Filters
import CorpusQuery.Proofs.Search.LastColumn
import CorpusQuery.Proofs.Search.Names
import CorpusQuery.Proofs.Search.Order
import CorpusQuery.Proofs.Search.Outlines
import CorpusQuery.Proofs.Search.Placeholders
import CorpusQuery.Proofs.Search.PlanScope
import CorpusQuery.Proofs.Search.Quotation
import CorpusQuery.Proofs.Search.Resolution
import CorpusQuery.Proofs.Search.Respelling
import CorpusQuery.Proofs.Search.Scope
import CorpusQuery.Proofs.Search.Sealing
import CorpusQuery.Proofs.Search.Sources
import CorpusQuery.Proofs.Search.Succession
import CorpusQuery.Proofs.Search.Tables
import CorpusQuery.Proofs.Search.Target
import CorpusQuery.Proofs.Search.Thresholds
import CorpusQuery.Proofs.Search.Ties
import CorpusQuery.Proofs.Search.Validity
import CorpusQuery.Proofs.Search.Values
import CorpusQuery.Proofs.Sql.Clauses
import CorpusQuery.Proofs.Sql.Evaluation
import CorpusQuery.Proofs.Sql.Gaps
import CorpusQuery.Proofs.Sql.Groups
import CorpusQuery.Proofs.Sql.Likeness
import CorpusQuery.Proofs.Sql.Literals
import CorpusQuery.Proofs.Sql.Nesting
import CorpusQuery.Proofs.Sql.Placeholders
import CorpusQuery.Proofs.Sql.Precedence
import CorpusQuery.Proofs.Sql.Scope
import CorpusQuery.Proofs.Sql.Sealing
import CorpusQuery.Proofs.Sql.Terms
import CorpusQuery.Proofs.Sql.Verdicts
import CorpusQuery.Proofs.Text.Characters
import CorpusQuery.Proofs.Text.Fields
import CorpusQuery.Proofs.Uid
import CorpusQuery.Rows
import CorpusQuery.Schema.Basic
import CorpusQuery.Schema.Layer
import CorpusQuery.Schema.Storage
import CorpusQuery.Schema.Stored
import CorpusQuery.Search.Matrix
import CorpusQuery.Search.Plan
import CorpusQuery.Search.Resolved
import CorpusQuery.Search.Restriction
import CorpusQuery.Search.SpanScan
import CorpusQuery.Search.Stored
import CorpusQuery.Search.Strategy
import CorpusQuery.Search.TurnPlan
import CorpusQuery.Search.WordChain
import CorpusQuery.Sql.Fragment
import CorpusQuery.Sql.Literal
import CorpusQuery.Sql.Param
import CorpusQuery.Sql.Select
import CorpusQuery.Text.Blank
import CorpusQuery.Text.Fields
import CorpusQuery.Text.Quoted
import CorpusQuery.Text.Unprinted
import CorpusQuery.Uid
