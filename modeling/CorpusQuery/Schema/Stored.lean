import CorpusQuery.Json.Value
import CorpusQuery.Schema.Basic

namespace CorpusQuery

/-! Schemas as JSON values. -/

open Json

namespace Alignment

def toJson : Alignment → Json
  | .none => .text "none"
  | .interval => .text "interval"

def ofJson : Json → Reading Alignment :=
  asChoice [("none", .none), ("interval", .interval)]

end Alignment

namespace ValueType

def toJson : ValueType → Json
  | .string => .text "string"
  | .number => .text "number"
  | .ipa => .text "ipa"

def ofJson : Json → Reading ValueType :=
  asChoice [("string", .string), ("number", .number), ("ipa", .ipa)]

end ValueType

namespace Scope

def toJson : Scope → Json
  | .span => .text "F"
  | .phrase => .text "M"
  | .word => .text "W"
  | .segment => .text "S"

def ofJson : Json → Reading Scope :=
  asChoice [("F", .span), ("M", .phrase), ("W", .word), ("S", .segment)]

end Scope

namespace AttributeKey

def toJson (key : AttributeKey) : Json :=
  let owner :=
    match key.owner with
    | .transcript => "transcript"
    | .participant => "participant"
  .object [("class", .text owner), ("name", .text key.name)]

def ofJson (json : Json) : Reading AttributeKey := do
  let _ ← json.asObject
  let owner ← json.required "class"
    (asChoice [("transcript", .transcript), ("participant", .participant)])
  let name ← json.required "name" asText
  return ⟨owner, name⟩

end AttributeKey

namespace Layer

/-- Fields without a value are left out. -/
def toJson (layer : Layer) : Json :=
  .object <|
    [("id", .text layer.id),
      ("description", .text layer.description),
      ("alignment", layer.alignment.toJson),
      ("peers", .bool layer.peers),
      ("peersOverlap", .bool layer.peersOverlap),
      ("saturated", .bool layer.saturated)] ++
    whenSome "parentId" .text layer.parentId ++
    [("parentIncludes", .bool layer.parentIncludes),
      ("valueType", layer.valueType.toJson)] ++
    whenSome "tableId" (fun table => .integer table.toInt) layer.tableId ++
    whenSome "scope" Scope.toJson layer.scope ++
    whenSome "attribute" AttributeKey.toJson layer.attributeKey

/-- Only the id has to be there; the parent, the table, the scope and the attribute
may be null. -/
def ofJson (json : Json) : Reading Layer := do
  let _ ← json.asObject
  return {
    id := ← json.required "id" asText
    description := ← json.withDefault "description" asText ""
    alignment := ← json.withDefault "alignment" Alignment.ofJson .none
    peers := ← json.withDefault "peers" asBool false
    peersOverlap := ← json.withDefault "peersOverlap" asBool false
    saturated := ← json.withDefault "saturated" asBool false
    parentId := ← json.nullable "parentId" asText
    parentIncludes := ← json.withDefault "parentIncludes" asBool false
    valueType := ← json.withDefault "valueType" ValueType.ofJson .string
    tableId := ← json.nullable "tableId" asInt64
    scope := ← json.nullable "scope" Scope.ofJson
    attributeKey := ← json.nullable "attribute" AttributeKey.ofJson }

end Layer

namespace Roots

def fields (roots : Roots) : List (String × Json) :=
  whenSome "participantLayerId" .text roots.participant ++
  whenSome "mainParticipantLayerId" .text roots.mainParticipant ++
  whenSome "turnLayerId" .text roots.turn ++
  whenSome "utteranceLayerId" .text roots.utterance ++
  whenSome "wordLayerId" .text roots.word ++
  whenSome "corpusLayerId" .text roots.corpus ++
  whenSome "episodeLayerId" .text roots.episode

def ofJson (json : Json) : Reading Roots := do
  return {
    participant := ← json.nullable "participantLayerId" asText
    mainParticipant := ← json.nullable "mainParticipantLayerId" asText
    turn := ← json.nullable "turnLayerId" asText
    utterance := ← json.nullable "utteranceLayerId" asText
    word := ← json.nullable "wordLayerId" asText
    corpus := ← json.nullable "corpusLayerId" asText
    episode := ← json.nullable "episodeLayerId" asText }

end Roots

namespace Schema

/-- Why a JSON value is no schema. -/
inductive LoadError where
  | shape (error : ShapeError)
  | schema (error : SchemaError)
deriving DecidableEq, Repr

namespace LoadError

def message : LoadError → String
  | .shape error => error.message
  | .schema error => error.message

end LoadError

/-- The fields of the parts come first, then the layers in their order. -/
def save (schema : Schema) : Json :=
  .object (schema.roots.fields ++ [("layers", .list (schema.layers.map Layer.toJson))])

def readLayers (json : Json) : Reading (List Layer) := do
  (← json.asList).mapM Layer.ofJson

/-- How deep lists and objects may be nested in a field beside the layers. -/
def maxDepth : Nat := 126

/-- The fields beside the layers have to be readable, whether they are asked for or
not. -/
def checkFields (fields : List (String × Json)) : Reading Unit :=
  fields.forM fun (name, value) =>
    if name == "layers" || value.isReadable maxDepth then .ok () else .error (.unreadable name)

def load (json : Json) : Except LoadError Schema := do
  let parts : Reading (List Layer × Roots) := do
    checkFields (← json.asObject)
    let roots ← Roots.ofJson json
    let layers ← json.required "layers" readLayers
    return (layers, roots)
  match parts with
  | .error error => .error (.shape error)
  | .ok (layers, roots) =>
      match build layers roots with
      | .error error => .error (.schema error)
      | .ok schema => .ok schema

end Schema

end CorpusQuery
