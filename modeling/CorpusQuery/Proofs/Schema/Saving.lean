import CorpusQuery.Proofs.Schema.Construction
import CorpusQuery.Proofs.Number.Integer
import CorpusQuery.Schema.Stored

namespace CorpusQuery

/-! Schemas saved and loaded again. -/

namespace Json

/-! ### Fields -/

@[simp] theorem field?_nil (name : String) : (object []).field? name = none := rfl

@[simp] theorem field?_cons (other : String) (value : Json) (rest : List (String × Json))
    (name : String) :
    (object ((other, value) :: rest)).field? name =
      if other = name then some value else (object rest).field? name := by
  by_cases same : other = name <;> simp [field?, same]

@[simp] theorem field?_append (left right : List (String × Json)) (name : String) :
    (object (left ++ right)).field? name =
      ((object left).field? name).or ((object right).field? name) := by
  simp only [field?, List.find?_append]
  cases left.find? fun pair => pair.1 == name <;> rfl

@[simp] theorem field?_whenSome (other : String) (encode : α → Json) (value : Option α)
    (name : String) :
    (object (whenSome other encode value)).field? name =
      if other = name then value.map encode else none := by
  cases value <;> simp [whenSome]

section

variable {json : Json} {name : String} (encode : α → Json) {reading : Json → Reading α}
  (lawful : ∀ value, reading (encode value) = .ok value)

include lawful

theorem required_of_field? {value : α} (found : json.field? name = some (encode value)) :
    json.required name reading = .ok value := by
  rw [required, found]
  exact lawful value

theorem withDefault_of_field? {value : α} (found : json.field? name = some (encode value))
    (default : α) : json.withDefault name reading default = .ok value := by
  rw [withDefault, found]
  exact lawful value

/-- A value is not taken for an absent one as long as it is not written as null. -/
theorem nullable_of_field? (some : ∀ value, encode value ≠ .null) {value : Option α}
    (found : json.field? name = value.map encode) :
    json.nullable name reading = .ok value := by
  rw [nullable, found]
  cases value with
  | none => rfl
  | some value =>
      have written := some value
      rw [Option.map_some]
      split
      · contradiction
      · rename_i absent
        exact absurd (Option.some.inj absent) written
      · rename_i found
        rw [← Option.some.inj found, lawful value]
        rfl

theorem mapM_map_of_lawful (values : List α) :
    (values.map encode).mapM reading = .ok values := by
  induction values with
  | nil => rfl
  | cons value rest ih =>
      rw [List.map_cons, List.mapM_cons, lawful value, ih]
      rfl

end

end Json

open Json

theorem Alignment.ofJson_toJson (alignment : Alignment) :
    ofJson alignment.toJson = .ok alignment := by
  cases alignment <;> rfl

theorem ValueType.ofJson_toJson (type : ValueType) : ofJson type.toJson = .ok type := by
  cases type <;> rfl

theorem Scope.ofJson_toJson (scope : Scope) : ofJson scope.toJson = .ok scope := by
  cases scope <;> rfl

theorem AttributeKey.ofJson_toJson (key : AttributeKey) : ofJson key.toJson = .ok key := by
  obtain ⟨owner, name⟩ := key
  cases owner <;> rfl

theorem Json.asInt64_toInt (n : Int64) : asInt64 (.integer n.toInt) = .ok n := by
  simp only [asInt64, Number.int64?_toInt]

theorem Layer.ofJson_toJson (layer : Layer) : ofJson layer.toJson = .ok layer := by
  have id : layer.toJson.required "id" asText = .ok layer.id :=
    required_of_field? .text (fun _ => rfl) (by simp [toJson])
  have description : layer.toJson.withDefault "description" asText "" = .ok layer.description :=
    withDefault_of_field? .text (fun _ => rfl) (by simp [toJson]) _
  have alignment : layer.toJson.withDefault "alignment" Alignment.ofJson .none =
      .ok layer.alignment :=
    withDefault_of_field? _ Alignment.ofJson_toJson (by simp [toJson]) _
  have peers : layer.toJson.withDefault "peers" asBool false = .ok layer.peers :=
    withDefault_of_field? .bool (fun _ => rfl) (by simp [toJson]) _
  have peersOverlap : layer.toJson.withDefault "peersOverlap" asBool false =
      .ok layer.peersOverlap :=
    withDefault_of_field? .bool (fun _ => rfl) (by simp [toJson]) _
  have saturated : layer.toJson.withDefault "saturated" asBool false = .ok layer.saturated :=
    withDefault_of_field? .bool (fun _ => rfl) (by simp [toJson]) _
  have parentId : layer.toJson.nullable "parentId" asText = .ok layer.parentId :=
    nullable_of_field? .text (fun _ => rfl) (by simp) (by simp [toJson])
  have parentIncludes : layer.toJson.withDefault "parentIncludes" asBool false =
      .ok layer.parentIncludes :=
    withDefault_of_field? .bool (fun _ => rfl) (by simp [toJson]) _
  have valueType : layer.toJson.withDefault "valueType" ValueType.ofJson .string =
      .ok layer.valueType :=
    withDefault_of_field? _ ValueType.ofJson_toJson (by simp [toJson]) _
  have tableId : layer.toJson.nullable "tableId" asInt64 = .ok layer.tableId :=
    nullable_of_field? _ asInt64_toInt (by simp) (by simp [toJson])
  have scope : layer.toJson.nullable "scope" Scope.ofJson = .ok layer.scope :=
    nullable_of_field? _ Scope.ofJson_toJson (fun scope => by cases scope <;> simp [Scope.toJson])
      (by simp [toJson])
  have attributeKey : layer.toJson.nullable "attribute" AttributeKey.ofJson =
      .ok layer.attributeKey :=
    nullable_of_field? _ AttributeKey.ofJson_toJson (by simp [AttributeKey.toJson])
      (by simp [toJson])
  rw [ofJson, id, description, alignment, peers, peersOverlap, saturated, parentId,
    parentIncludes, valueType, tableId, scope, attributeKey]
  rfl

/-! ### Parts -/

namespace Roots

/-- The parts are found among other fields that have none of their names. -/
theorem ofJson_fields (roots : Roots) (layers : Json) :
    ofJson (.object (roots.fields ++ [("layers", layers)])) = .ok roots := by
  generalize saved : Json.object (roots.fields ++ [("layers", layers)]) = json
  have part {name : String} {id : Option String} (found : json.field? name = id.map .text) :
      json.nullable name asText = .ok id :=
    nullable_of_field? .text (fun _ => rfl) (by simp) found
  have participant : json.nullable "participantLayerId" asText = .ok roots.participant :=
    part (by simp [← saved, fields])
  have mainParticipant :
      json.nullable "mainParticipantLayerId" asText = .ok roots.mainParticipant :=
    part (by simp [← saved, fields])
  have turn : json.nullable "turnLayerId" asText = .ok roots.turn :=
    part (by simp [← saved, fields])
  have utterance : json.nullable "utteranceLayerId" asText = .ok roots.utterance :=
    part (by simp [← saved, fields])
  have word : json.nullable "wordLayerId" asText = .ok roots.word :=
    part (by simp [← saved, fields])
  have corpus : json.nullable "corpusLayerId" asText = .ok roots.corpus :=
    part (by simp [← saved, fields])
  have episode : json.nullable "episodeLayerId" asText = .ok roots.episode :=
    part (by simp [← saved, fields])
  rw [ofJson, participant, mainParticipant, turn, utterance, word, corpus, episode]
  rfl

theorem isReadable_of_mem_fields {roots : Roots} {field : String × Json}
    (member : field ∈ roots.fields) (depth : Nat) : field.2.isReadable depth := by
  have part (name : String) (id : Option String) :
      ∀ field ∈ whenSome name .text id, field.2.isReadable depth := by
    cases id <;> simp [whenSome, isReadable]
  simp only [fields, List.mem_append] at member
  rcases member with (((((member | member) | member) | member) | member) | member) | member
  all_goals exact part _ _ _ member

end Roots

/-! ### Schemas -/

namespace Schema

theorem checkFields_of_readable {fields : List (String × Json)}
    (readable : ∀ field ∈ fields, field.1 = "layers" ∨ field.2.isReadable maxDepth) :
    checkFields fields = .ok () := by
  unfold checkFields
  induction fields with
  | nil => rfl
  | cons field rest ih =>
      obtain ⟨first, others⟩ := List.forall_mem_cons.1 readable
      have checked : (field.1 == "layers" || field.2.isReadable maxDepth) = true := by
        simpa using first
      rw [List.forM_eq_forM, List.forM_cons]
      simp only [checked, if_true]
      exact ih others

theorem readLayers_toJson (layers : List Layer) :
    readLayers (.list (layers.map Layer.toJson)) = .ok layers :=
  mapM_map_of_lawful _ Layer.ofJson_toJson layers

section

variable {layers : List Layer} {roots : Roots} {schema : Schema}

theorem load_of_build {json : Json} {fields : List (String × Json)}
    (object : json.asObject = .ok fields) (checked : checkFields fields = .ok ())
    (parts : Roots.ofJson json = .ok roots)
    (listed : json.required "layers" readLayers = .ok layers)
    (built : build layers roots = .ok schema) : load json = .ok schema := by
  simp [load, object, checked, parts, listed, built, bind, Except.bind, pure, Except.pure]

/-- Saving writes nothing that loading reads differently, so the layers are classified
anew from the same description. -/
theorem load_save_of_build (built : build layers roots = .ok schema) :
    schema.layers = layers ∧ schema.roots = roots ∧ load (save schema) = .ok schema := by
  obtain ⟨-, entered, rfl⟩ := build_eq_ok.1 built
  have sameLayers : schema.layers = layers := layers_of_entered entered
  have checked : checkFields (schema.roots.fields ++
      [("layers", .list (schema.layers.map Layer.toJson))]) = .ok () := by
    refine checkFields_of_readable (List.forall_mem_append.2 ⟨fun field member => ?_, ?_⟩)
    · exact .inr (Roots.isReadable_of_mem_fields member _)
    · exact List.forall_mem_singleton.2 (.inl rfl)
  have listed : (save schema).required "layers" readLayers = .ok layers :=
    required_of_field? _ readLayers_toJson (by simp [save, Roots.fields, sameLayers])
  exact ⟨sameLayers, rfl, load_of_build rfl checked (schema.roots.ofJson_fields _) listed built⟩

/-- A schema that has been built can be saved as a JSON value and loaded from it.  What is
loaded has the same layers in the same order, the same parts and the same rows for each
layer, and is saved as the same value. -/
theorem load_save (built : build layers roots = .ok schema) :
    ∃ loaded, load (save schema) = .ok loaded ∧ loaded.layers = layers ∧ loaded.roots = roots ∧
      (∀ id, loaded.storage? id = schema.storage? id) ∧ save loaded = save schema := by
  obtain ⟨sameLayers, sameRoots, loaded⟩ := load_save_of_build built
  exact ⟨schema, loaded, sameLayers, sameRoots, fun _ => rfl, rfl⟩

end

/-! ### Layers of every kind, with few and with many fields given -/

namespace Dialects

def layers : List Layer :=
  [{ Layer.ofId "Örtlichkeit" with description := "Ort \"🗺\"", tableId := some (-7) },
    { Layer.ofId "слово" with
      parentId := some "utterance", tableId := some 0, alignment := .interval,
      peers := true, peersOverlap := true, saturated := true, parentIncludes := true },
    { Layer.ofId "pho'nes" with
      parentId := some "слово", tableId := some Int64.minValue, valueType := .ipa,
      scope := some .span },
    { Layer.ofId "utterance" with tableId := some 11, alignment := .interval },
    { Layer.ofId "Alter" with
      attributeKey := some ⟨.participant, "age"⟩, valueType := .number },
    Layer.ofId "corpus"]

def roots : Roots :=
  { word := some "слово", utterance := some "utterance", corpus := some "corpus" }

def storages : List Storage :=
  [.temporal .span (-7), .temporal .word 0, .temporal .span Int64.minValue, .temporal .span 11,
    .attributed .participant "age", .entity .corpus]

def schema : Schema :=
  ⟨List.zipWith Entry.mk layers storages, roots⟩

end Dialects

theorem load_save_dialects :
    build Dialects.layers Dialects.roots = .ok Dialects.schema ∧
      ∃ loaded, load (save Dialects.schema) = .ok loaded ∧ loaded.layers = Dialects.layers := by
  have built : build Dialects.layers Dialects.roots = .ok Dialects.schema := by
    decide +kernel
  obtain ⟨loaded, found, sameLayers, -⟩ := load_save built
  exact ⟨built, loaded, found, sameLayers⟩

end Schema

end CorpusQuery
