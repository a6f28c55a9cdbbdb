import CorpusQuery.Search.Restriction
import CorpusQuery.Search.SpanScan
import CorpusQuery.Search.TurnPlan
import CorpusQuery.Search.WordChain

namespace CorpusQuery.Search

/-! How a matrix is searched for.  All ways find the same matches; the special ones
read fewer tables. -/

open Sql

inductive Strategy where
  | orthographyChain (chain : WordChain)
  | spanScan (found : ResolvedMatch)
  | general
deriving DecidableEq

namespace Strategy

def name : Strategy → String
  | orthographyChain _ => "OrthographyChain"
  | spanScan _ => "SpanScan"
  | general => "General"

end Strategy

namespace TimedLayer

/-- Whether the layer has one annotation for each word: it is the word layer, or
right below it and without peers. -/
def isOrthography (schema : Schema) (layer : TimedLayer) : Bool :=
  layer.scope == .word &&
    (schema.plays .word layer.id ||
      (layer.layer.parentId.any (schema.plays .word) && !layer.layer.peers))

end TimedLayer

namespace ResolvedColumn

/-- The column as a word of a chain: its only match, free of the ends of words. -/
def link? (column : ResolvedColumn) : Option Link :=
  match column.found with
  | [found] => if found.wanted.isAnchored then none else some ⟨found, column.adjacency⟩
  | _ => none

/-- The columns as words of one layer that has one annotation for each word. -/
def chain? (schema : Schema) (columns : List ResolvedColumn) : Option WordChain :=
  match columns.mapM link? with
  | some (first :: rest) =>
      if (schema.designated? .turn).isSome && first.found.layer.isOrthography schema &&
          rest.all (·.found.layer.id == first.found.layer.id) then
        some ⟨first, rest⟩
      else none
  | _ => none

/-- The only match of all columns, if it is free in time and has no anchors in common
with words. -/
def span? (linked : String → Bool) (columns : List ResolvedColumn) : Option ResolvedMatch :=
  match columns with
  | [⟨[found], _⟩] =>
      if found.scope == .span && !found.wanted.isAnchored && !linked found.layer.id then
        some found
      else none
  | _ => none

def strategy (schema : Schema) (linked : String → Bool) (columns : List ResolvedColumn) :
    Strategy :=
  match chain? schema columns with
  | some chain => .orthographyChain chain
  | none =>
      match span? linked columns with
      | some found => .spanScan found
      | none => .general

end ResolvedColumn

/-- The layer with a part to play, if its annotations stand in time. -/
def timed? (schema : Schema) (role : Role) : Option TimedLayer :=
  (schema.designated? role).bind TimedLayer.ofEntry?

/-- The layers of turns and of words, which searches for words need. -/
def turnsAndWords (schema : Schema) : Except QueryError (TimedLayer × TimedLayer) :=
  match timed? schema .turn, timed? schema .word with
  | some turns, some words => .ok (turns, words)
  | _, _ =>
      .error
        (.invalid
          [.notApplicable "word searches" "a schema without temporal turn and word layers"])

/-- The plan of a strategy for the columns. -/
def planOf (schema : Schema) (linked : String → Bool) (confidence : Option Int64)
    (columns : List ResolvedColumn) : Strategy → Except QueryError Plan
  | .orthographyChain chain => do
      let (turns, _) ← turnsAndWords schema
      return chain.plan schema turns confidence
  | .spanScan found => .ok (SpanScan.plan confidence found)
  | .general => do
      let (turns, words) ← turnsAndWords schema
      return Setting.plan ⟨schema, turns, words, linked, confidence⟩ columns

namespace Plan

/-- The statement of a plan that is confined by the options. -/
def restricted (options : Options) (plan : Plan) : Select :=
  options.restrict [plan.result.graph.piece] plan.result.speaker? (plan.select options.searchId)

end Plan

namespace Matrix

/-- How the matrix is searched for. -/
def strategy (schema : Schema) (linked : String → Bool) (matrix : Matrix) :
    Except QueryError Strategy := do
  return ResolvedColumn.strategy schema linked (← matrix.resolve schema)

/-- The statement that records all matches of the matrix. -/
def select (schema : Schema) (linked : String → Bool) (options : Options) (matrix : Matrix) :
    Except QueryError Select := do
  let columns ← matrix.resolve schema
  let plan ← planOf schema linked options.minConfidence columns
    (ResolvedColumn.strategy schema linked columns)
  return plan.restricted options

end Matrix

end CorpusQuery.Search
