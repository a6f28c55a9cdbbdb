import CorpusQuery.Problem
import CorpusQuery.Schema.Basic
import CorpusQuery.Search.Matrix

namespace CorpusQuery.Search

/-! Search matrices as a schema knows them: each layer with its table, or all that
is wrong with the matrix. -/

/-- A layer whose annotations stand in time, with the table that they are in. -/
structure TimedLayer where
  layer : Layer
  scope : Scope
  table : Int64
deriving DecidableEq, Repr

namespace TimedLayer

def ofEntry? (entry : Entry) : Option TimedLayer :=
  match entry.storage with
  | .temporal scope table => some ⟨entry.layer, scope, table⟩
  | _ => none

def id (layer : TimedLayer) : String :=
  layer.layer.id

end TimedLayer

/-- What is asked of a layer, and the layer. -/
structure ResolvedMatch where
  wanted : LayerMatch
  layer : TimedLayer
deriving DecidableEq

namespace ResolvedMatch

def scope (found : ResolvedMatch) : Scope :=
  found.layer.scope

end ResolvedMatch

structure ResolvedColumn where
  found : List ResolvedMatch
  adjacency : Nat
deriving DecidableEq

/-- What a reader of the matrix should know although it is no fault. -/
inductive Remark where
  /-- The match is negated, but asks nothing of the label. -/
  | emptyNegation (layer : String) (column : Nat)
  /-- The match is anchored, but words and segments have no words within them. -/
  | idleAnchor (layer : String) (column : Nat)
deriving DecidableEq, Repr

namespace LayerMatch

/-- The layer of the match, if it is one in time. -/
def resolve? (schema : Schema) (wanted : LayerMatch) : Option ResolvedMatch :=
  ((schema.entry? wanted.id).bind TimedLayer.ofEntry?).map (⟨wanted, ·⟩)

/-- What is wrong with a match in a column, where `targeted` says whether an earlier
match is the target. -/
def problems (schema : Schema) (column : Nat) (targeted : Bool) (wanted : LayerMatch) :
    List Problem :=
  (if wanted.labelRegex.isSome && wanted.hasRange then
    [.invalidMatch column ("layer " ++ wanted.id ++ " has both a pattern and a range")]
  else []) ++
  (if wanted.target && targeted then
    [.invalidMatch column "only one layer can be the target"]
  else []) ++
  match schema.entry? wanted.id with
  | none => [.unknownLayer wanted.id]
  | some entry =>
      if entry.storage.isTemporal then []
      else [.invalidMatch column ("layer " ++ wanted.id ++ " is not a temporal layer")]

def remarks (schema : Schema) (column : Nat) (wanted : LayerMatch) : List Remark :=
  (if wanted.negated && !wanted.hasCondition then [.emptyNegation wanted.id column] else []) ++
  match wanted.resolve? schema with
  | none => []
  | some found =>
      if wanted.isAnchored && (found.scope == .word || found.scope == .segment) then
        [.idleAnchor wanted.id column]
      else []

/-- What is wrong with the matches of a column, one after the other. -/
def problemsOf (schema : Schema) (column : Nat) : Bool → List LayerMatch → List Problem
  | _, [] => []
  | targeted, wanted :: rest =>
      wanted.problems schema column targeted ++
        problemsOf schema column (targeted || wanted.target) rest

end LayerMatch

namespace Column

def ownProblems (index : Nat) (column : Column) : List Problem :=
  (if column.layers.isEmpty then [.invalidMatch index "no layers to match"] else []) ++
  (if column.adjacency = 0 then [.invalidMatch index "adjacency must be at least 1"] else [])

def hasTarget (column : Column) : Bool :=
  column.layers.any LayerMatch.target

/-- What is wrong with the columns from an index on. -/
def problemsFrom (schema : Schema) : Nat → Bool → List Column → List Problem
  | _, _, [] => []
  | index, targeted, column :: rest =>
      column.ownProblems index ++
        LayerMatch.problemsOf schema index targeted column.layers ++
        problemsFrom schema (index + 1) (targeted || column.hasTarget) rest

def resolve (schema : Schema) (column : Column) : ResolvedColumn :=
  ⟨column.layers.filterMap (LayerMatch.resolve? schema), column.adjacency⟩

end Column

namespace Matrix

/-- All that is wrong with the matrix, column by column. -/
def problems (schema : Schema) (matrix : Matrix) : List Problem :=
  Column.problemsFrom schema 0 false matrix.columns

def remarks (schema : Schema) (matrix : Matrix) : List Remark :=
  matrix.columns.zipIdx.flatMap fun (column, index) =>
    column.layers.flatMap (LayerMatch.remarks schema index)

/-- The columns with their layers; only a matrix without problems has any. -/
def resolve (schema : Schema) (matrix : Matrix) : Except QueryError (List ResolvedColumn) :=
  if matrix.columns.isEmpty then .error .emptyQuery
  else acceptWithout (matrix.problems schema) (matrix.columns.map (Column.resolve schema))

end Matrix

end CorpusQuery.Search
