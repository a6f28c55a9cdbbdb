import CorpusQuery.Json.Value
import CorpusQuery.Search.Matrix

namespace CorpusQuery.Search

/-! Search matrices as JSON values. -/

open Json

namespace LayerMatch

/-- Patterns and bounds that are not set are left out. -/
def toJson (wanted : LayerMatch) : Json :=
  .object <|
    [("id", .text wanted.id)] ++
    whenSome "pattern" .text wanted.pattern ++
    whenSome "min" .fraction wanted.min ++
    whenSome "max" .fraction wanted.max ++
    [("not", .bool wanted.negated),
      ("target", .bool wanted.target),
      ("anchorStart", .bool wanted.anchoredStart),
      ("anchorEnd", .bool wanted.anchoredEnd)]

/-- Only the id has to be there; the pattern and the bounds may be null. -/
def ofJson (json : Json) : Reading LayerMatch := do
  let _ ← json.asObject
  return {
    id := ← json.required "id" asText
    pattern := ← json.nullable "pattern" asText
    min := ← json.nullable "min" asNumber
    max := ← json.nullable "max" asNumber
    negated := ← json.withDefault "not" asBool false
    target := ← json.withDefault "target" asBool false
    anchoredStart := ← json.withDefault "anchorStart" asBool false
    anchoredEnd := ← json.withDefault "anchorEnd" asBool false }

end LayerMatch

namespace Column

def toJson (column : Column) : Json :=
  .object
    [("layers", .list (column.layers.map LayerMatch.toJson)),
      ("adj", .integer column.adjacency)]

def ofJson (json : Json) : Reading Column := do
  let _ ← json.asObject
  return {
    layers := ← json.required "layers" fun layers => do (← layers.asList).mapM LayerMatch.ofJson
    adjacency := ← json.withDefault "adj" asCount32 1 }

end Column

namespace Matrix

def toJson (matrix : Matrix) : Json :=
  .object [("columns", .list (matrix.columns.map Column.toJson))]

def ofJson (json : Json) : Reading Matrix := do
  let _ ← json.asObject
  return {
    columns := ← json.required "columns" fun columns => do (← columns.asList).mapM Column.ofJson }

end Matrix

end CorpusQuery.Search
