import CorpusQuery.Number.Binary64

namespace CorpusQuery

/-! Filter expressions: conditions on the annotations, participants or transcripts
that a query selects. -/

/-- What an expression can ask of a row. -/
inductive Attribute where
  | id
  | layerId
  | label
  | parentId
  | graphId
  | startOffset
  | endOffset
  | confidence
  | startConfidence
  | endConfidence
deriving DecidableEq, Repr

inductive Comparison where
  | eq
  /-- Equal as bytes. -/
  | strictEq
  | ne
  /-- Unequal as bytes. -/
  | strictNe
  | lt
  | le
  | gt
  | ge
deriving DecidableEq, Repr

/-- What yields a value or a list of values. -/
inductive Operand where
  | text (value : String)
  | integer (value : Int64)
  | number (value : Number.Binary64)
  | null
  | list (items : List Operand)
  /-- An attribute of the row itself. -/
  | own (attr : Attribute)
  /-- An attribute of the first annotation on another layer. -/
  | first (layer : String) (attr : Attribute)
  | labels (layer : String)
  | all (layer : String)
  | annotators (layer : String)
  | length (of : Operand)
  /-- The first value that is not null. -/
  | coalesce (items : List Operand)

inductive Expression where
  | or (items : List Expression)
  | and (items : List Expression)
  | not (inner : Expression)
  | compare (left : Operand) (op : Comparison) (right : Operand)
  /-- A regular expression matches the operand. -/
  | test (pattern : String) (operand : Operand)
  /-- A list has the item, or a text has it in it. -/
  | includes (list item : Operand)
  /-- Two lists have an item in common. -/
  | includesAny (list items : Operand)

namespace Attribute

/-- Every spelling; a spelling stands before the shorter ones that it starts with. -/
def spellings : List (String × Attribute) :=
  [("layer.id", layerId), ("layerId", layerId), ("parent.id", parentId), ("parentId", parentId),
    ("graph.id", graphId), ("start.offset", startOffset), ("start.confidence", startConfidence),
    ("end.offset", endOffset), ("end.confidence", endConfidence), ("confidence", confidence),
    ("label", label), ("id", id)]

/-- The canonical spelling. -/
def name : Attribute → String
  | id => "id"
  | layerId => "layer.id"
  | label => "label"
  | parentId => "parent.id"
  | graphId => "graph.id"
  | startOffset => "start.offset"
  | endOffset => "end.offset"
  | confidence => "confidence"
  | startConfidence => "start.confidence"
  | endConfidence => "end.confidence"

end Attribute

namespace Comparison

def symbol : Comparison → String
  | eq => "=="
  | strictEq => "==="
  | ne => "!="
  | strictNe => "!=="
  | lt => "<"
  | le => "<="
  | gt => ">"
  | ge => ">="

/-- Every symbol; one that starts with another stands before it. -/
def symbols : List (String × Comparison) :=
  [("===", strictEq), ("!==", strictNe), ("==", eq), ("!=", ne), ("<=", le), (">=", ge),
    ("<", lt), (">", gt), ("=", eq)]

def isEquality : Comparison → Bool
  | eq | strictEq | ne | strictNe => true
  | _ => false

def isNegated : Comparison → Bool
  | ne | strictNe => true
  | _ => false

end Comparison

namespace Operand

mutual

/-- The layers that an operand names in its functions, in order. -/
def layers : Operand → List String
  | .first layer _ => [layer]
  | .labels layer => [layer]
  | .all layer => [layer]
  | .annotators layer => [layer]
  | .list items => layersOf items
  | .coalesce items => layersOf items
  | .length inner => layers inner
  | _ => []

def layersOf : List Operand → List String
  | [] => []
  | item :: items => layers item ++ layersOf items

end

end Operand

namespace Expression

mutual

/-- The layers that an expression names in its functions, in order. -/
def layers : Expression → List String
  | .or items => layersOf items
  | .and items => layersOf items
  | .not inner => layers inner
  | .compare left _ right => left.layers ++ right.layers
  | .test _ operand => operand.layers
  | .includes list item => list.layers ++ item.layers
  | .includesAny list items => list.layers ++ items.layers

def layersOf : List Expression → List String
  | [] => []
  | item :: items => layers item ++ layersOf items

end

end Expression

end CorpusQuery
