import CorpusQuery.Expression.Tree
import CorpusQuery.Json.Value

namespace CorpusQuery

/-! Operands as JSON values: an object with the kind of operand and what it is made
of. -/

open Json

namespace Attribute

def key : Attribute → String
  | id => "id"
  | layerId => "layer_id"
  | label => "label"
  | parentId => "parent_id"
  | graphId => "graph_id"
  | startOffset => "start_offset"
  | endOffset => "end_offset"
  | confidence => "confidence"
  | startConfidence => "start_confidence"
  | endConfidence => "end_confidence"

def all : List Attribute :=
  [id, layerId, label, parentId, graphId, startOffset, endOffset, confidence, startConfidence,
    endConfidence]

def ofJson : Json → Reading Attribute :=
  asChoice (all.map fun attr => (attr.key, attr))

end Attribute

namespace Operand

def tagged (kind : String) (value : Json) : Json :=
  .object [("type", .text kind), ("value", value)]

mutual

def toJson : Operand → Json
  | .text value => tagged "str" (.text value)
  | .integer value => tagged "int" (.integer value.toInt)
  | .number value => tagged "number" (if value.isFinite then .fraction value else .null)
  | .null => .object [("type", .text "null")]
  | .list items => tagged "list" (.list (toJsonItems items))
  | .own attr => tagged "attribute" (.text attr.key)
  | .first layer attr =>
      tagged "first" (.object [("layer", .text layer), ("attribute", .text attr.key)])
  | .labels layer => tagged "labels" (.text layer)
  | .all layer => tagged "all" (.text layer)
  | .annotators layer => tagged "annotators" (.text layer)
  | .length inner => tagged "length" (toJson inner)
  | .coalesce items => tagged "coalesce" (.list (toJsonItems items))

def toJsonItems : List Operand → List Json
  | [] => []
  | item :: items => toJson item :: toJsonItems items

end

def kinds : List String :=
  ["str", "int", "number", "null", "list", "attribute", "first", "labels", "all", "annotators",
    "length", "coalesce"]

/-- The kind of operand, one of the known names. -/
def kindOfJson : Json → Reading String :=
  asChoice (kinds.map fun kind => (kind, kind))

def firstOfJson (json : Json) : Reading Operand := do
  let _ ← json.asObject
  let layer ← json.required "layer" asText
  let attr ← json.required "attribute" Attribute.ofJson
  return .first layer attr

/-- An operand without others in it. -/
def leafOfJson (kind : String) (value : Json) : Reading Operand :=
  match kind with
  | "str" => value.asText.map .text
  | "int" => value.asInt64.map .integer
  | "number" => value.asNumber.map .number
  | "attribute" => (Attribute.ofJson value).map .own
  | "first" => firstOfJson value
  | "labels" => value.asText.map .labels
  | "all" => value.asText.map .all
  | "annotators" => value.asText.map .annotators
  | _ => .error (.unexpected "a kind of operand")

theorem sizeOf_field?_lt {fields : List (String × Json)} {name : String} {value : Json}
    (found : (Json.object fields).field? name = some value) :
    sizeOf value < sizeOf (Json.object fields) := by
  obtain ⟨⟨name', value'⟩, read, rfl⟩ := Option.map_eq_some_iff.1 found
  have := List.sizeOf_lt_of_mem (List.mem_of_find?_eq_some read)
  simp only [Json.object.sizeOf_spec, Prod.mk.sizeOf_spec] at this ⊢
  omega

/-- The operand a JSON value stands for; only the null operand may lack a value. -/
def ofJson (json : Json) : Reading Operand :=
  match json with
  | .object fields => do
      let kind ← (Json.object fields).required "type" kindOfJson
      match found : (Json.object fields).field? "value" with
      | none => if kind = "null" then .ok .null else .error (.missing "value")
      | some value =>
          have : sizeOf value < 1 + sizeOf fields := by simpa using sizeOf_field?_lt found
          match kind with
          | "null" =>
              match value with
              | .null => .ok .null
              | _ => .error (.unexpected "null")
          | "length" => (ofJson value).map .length
          | "list" => ofJsonItems value |>.map .list
          | "coalesce" => ofJsonItems value |>.map .coalesce
          | kind => leafOfJson kind value
  | _ => .error (.unexpected "an object")
termination_by sizeOf json
where
  ofJsonItems (json : Json) : Reading (List Operand) :=
    match json with
    | .list items =>
        items.attach.mapM fun ⟨item, member⟩ =>
          have := List.sizeOf_lt_of_mem member
          ofJson item
    | _ => .error (.unexpected "a list")
  termination_by sizeOf json

end Operand

end CorpusQuery
