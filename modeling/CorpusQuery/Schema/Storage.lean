import CorpusQuery.Number.Integer
import CorpusQuery.Schema.Layer

namespace CorpusQuery

/-! Where the rows of a layer are stored. -/

/-- The kinds of row that are no annotations. -/
inductive Entity where
  | participant
  | mainParticipant
  | corpus
  | episode
deriving DecidableEq, Repr

inductive Storage where
  /-- A table of its own, of annotations in time. -/
  | temporal (scope : Scope) (table : Int64)
  /-- The rows of a shared table that have the attribute's name. -/
  | attributed (owner : Owner) (name : String)
  | entity (entity : Entity)
deriving DecidableEq, Repr

namespace Scope

/-- The letter of the scope in a uid; spans have none. -/
def letter : Scope → String
  | .span => ""
  | .phrase => "m"
  | .word => "w"
  | .segment => "s"

def name : Scope → String
  | .span => "Span"
  | .phrase => "Phrase"
  | .word => "Word"
  | .segment => "Segment"

/-- Whether annotations of this scope record the turn they stand in. -/
def hasTurn : Scope → Bool
  | .span => false
  | _ => true

end Scope

namespace Owner

/-- The letter of the owner in a uid. -/
def letter : Owner → String
  | .transcript => "t"
  | .participant => "p"

end Owner

/-- The table of the layer in time with this number. -/
def layerTable (table : Int64) : String :=
  "annotation_layer_" ++ Number.text table

namespace Storage

def tableId : Storage → Option Int64
  | .temporal _ table => some table
  | _ => none

def table (storage : Storage) : Option String :=
  storage.tableId.map layerTable

def scope : Storage → Option Scope
  | .temporal scope _ => some scope
  | _ => none

def isTemporal : Storage → Bool
  | .temporal .. => true
  | _ => false

def hasTurn : Storage → Bool
  | .temporal scope _ => scope.hasTurn
  | _ => false

def attributeName : Storage → Option String
  | .attributed _ name => some name
  | _ => none

def temporalStem (scope : Scope) (table : Int64) : String :=
  "e" ++ scope.letter ++ "_" ++ Number.text table ++ "_"

def attributeStem (owner : Owner) (name : String) : String :=
  owner.letter ++ "|" ++ name ++ "|"

/-- What the uids of the stored annotations have before the annotation's number.
Entities have no uids. -/
def uidStem : Storage → Option String
  | .temporal scope table => some (temporalStem scope table)
  | .attributed owner name => some (attributeStem owner name)
  | .entity _ => none

end Storage

end CorpusQuery
