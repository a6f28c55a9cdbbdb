import CorpusQuery.Expression.Tree
import CorpusQuery.Filter.Value

namespace CorpusQuery.Filter

/-! What an expression refers to: attributes of the subject's row, and the rows of
other layers that belong to it. -/

open Sql

/-- The schema and the target of the expression under examination. -/
structure Scene where
  schema : Schema
  target : Target

namespace Scene

/-- Notes that something does not apply to the subject, unless the subject is
itself a problem. -/
def notApplicable (scene : Scene) (construct : String) (value : α) : Noted α :=
  match scene.target with
  | .unresolved => pure value
  | target => .problem (.notApplicable construct target.describe) value

/-- The uid of the annotation whose number is given, or the number alone where
there are no uids. -/
def uidOrNumber (storage : Option Storage) (number : Fragment) : Fragment :=
  (storage.bind (uidOf? · number)).getD number

def parentStorage? (scene : Scene) (layer : Layer) : Option Storage :=
  layer.parentId.bind scene.schema.storage?

/-! ### The subject's row -/

/-- An attribute of an annotation in time. -/
def intervalAttribute (scene : Scene) (layer : Layer) (storage : Storage) :
    Attribute → Noted Fragment
  | .id => pure (uidOrNumber (some storage) [.column "annotation" "annotation_id"])
  | .layerId => pure [.marker layer.id]
  | .label => pure [.column "annotation" "label"]
  | .confidence => pure [.column "annotation" "label_status"]
  | .parentId =>
      pure (uidOrNumber (scene.parentStorage? layer) [.column "annotation" "parent_id"])
  | .graphId => .usingTranscript [.column "transcript" "transcript_id"]
  | .startOffset => .usingAnchors [.column "start_anchor" "offset"]
  | .endOffset => .usingAnchors [.column "end_anchor" "offset"]
  | .startConfidence => .usingAnchors [.column "start_anchor" "alignment_status"]
  | .endConfidence => .usingAnchors [.column "end_anchor" "alignment_status"]

/-- The name of the speaker that an attribute's value belongs to. -/
def ownerName : Fragment :=
  Fragment.parenthesized
    (Select.subquery
      { columns := [[.column "speaker" "name"]]
        source := relation "speaker" "speaker"
        conditions :=
          [equalColumns ("speaker", "speaker_number") ("annotation", "speaker_number")] })

/-- An attribute of a value of a transcript's or participant's attribute.  Its
parent is what it belongs to. -/
def attributedAttribute (scene : Scene) (layer : Layer) (owner : Owner) (storage : Storage) :
    Attribute → Noted Fragment
  | .id => pure (uidOrNumber (some storage) [.column "annotation" "annotation_id"])
  | .layerId => pure [.marker layer.id]
  | .label => pure [.column "annotation" "label"]
  | .confidence => pure [.column "annotation" "label_status"]
  | .parentId =>
      match owner with
      | .transcript => .usingTranscript [.column "transcript" "transcript_id"]
      | .participant => pure ownerName
  | .graphId =>
      match owner with
      | .transcript => .usingTranscript [.column "transcript" "transcript_id"]
      | .participant => scene.notApplicable Attribute.graphId.name nothing
  | attr => scene.notApplicable attr.name nothing

/-- An attribute of the subject's row. -/
def ownAttribute (scene : Scene) (attr : Attribute) : Noted Fragment :=
  match scene.target with
  | .intervals layer scope table =>
      scene.intervalAttribute layer (.temporal scope table) attr
  | .attributed layer owner name =>
      scene.attributedAttribute layer owner (.attributed owner name) attr
  | .participants layer _ =>
      match attr, layer with
      | .id, _ | .label, _ => pure [.column "speaker" "name"]
      | .layerId, some layer => pure [.marker layer.id]
      | _, _ => scene.notApplicable attr.name nothing
  | .transcripts =>
      match attr with
      | .id | .label | .graphId => pure [.column "transcript" "transcript_id"]
      | _ => scene.notApplicable attr.name nothing
  | .unresolved => scene.notApplicable attr.name nothing

/-! ### Rows of other layers -/

/-- The column of an entity's name, or of an annotation's label. -/
def labelColumn : Storage → Fragment
  | .entity .corpus => [.column "related" "corpus_name"]
  | .entity _ => [.column "related" "name"]
  | _ => [.column "related" "label"]

/-- An attribute of a row of another layer, if rows of its kind have it. -/
def relatedColumn? (scene : Scene) (layer : Layer) (storage : Storage) :
    Attribute → Option Fragment
  | .label => some (labelColumn storage)
  | .layerId => some [.marker layer.id]
  | .id =>
      match storage with
      | .entity _ => some (labelColumn storage)
      | _ => some (uidOrNumber (some storage) [.column "related" "annotation_id"])
  | .confidence =>
      match storage with
      | .entity _ => none
      | _ => some [.column "related" "label_status"]
  | .graphId => none
  | attr =>
      match storage with
      | .temporal .. =>
          match attr with
          | .parentId =>
              some (uidOrNumber (scene.parentStorage? layer) [.column "related" "parent_id"])
          | .startOffset => some [.column "related_start" "offset"]
          | .endOffset => some [.column "related_end" "offset"]
          | .startConfidence => some [.column "related_start" "alignment_status"]
          | .endConfidence => some [.column "related_end" "alignment_status"]
          | _ => none
      | _ => none

/-- The rows of `transcript_speaker` under some conditions, one column of them. -/
def speakings (column : String) (conditions : List Fragment) : Select :=
  { columns := [[.words column]]
    source := relation "transcript_speaker" "transcript_speaker"
    conditions }

/-- A graph is the row's, or one that the row's speaker speaks in. -/
def ofGraph? (scene : Scene) (column : String × String) : Option Fragment :=
  match scene.target.graph?, scene.target.speaker? scene.schema with
  | some graph, _ => some (.column column.1 column.2 :: .words " = " :: graph)
  | none, some speaker =>
      some (within [.column column.1 column.2]
        (speakings "ag_id" [.words "speaker_number = " :: speaker]))
  | none, none => none

/-- A speaker is the row's, or one that speaks in the row's graph. -/
def ofSpeaker? (scene : Scene) : Option Fragment :=
  match scene.target.speaker? scene.schema, scene.target.graph? with
  | some speaker, _ => some (.column "related" "speaker_number" :: .words " = " :: speaker)
  | none, some graph =>
      some (within [.column "related" "speaker_number"]
        (speakings "speaker_number" [.words "ag_id = " :: graph]))
  | none, none => none

/-- The conditions by which annotations in time belong to the row: they share its
turn or graph and overlap it, or they are in its graph, or its speaker's. -/
def ofInterval? (scene : Scene) (scope : Scope) : Option (List Fragment) :=
  if scene.target.isInterval then
    let place :=
      if scope.hasTurn && scene.target.hasTurn then "turn_annotation_id" else "ag_id"
    some
      [equalColumns ("related", place) ("annotation", place),
        compareColumns "<" ("related_start", "offset") ("end_anchor", "offset"),
        compareColumns "<" ("start_anchor", "offset") ("related_end", "offset")]
  else
    match scene.target.graph?, scene.target.speaker? scene.schema with
    | some graph, _ => some [.column "related" "ag_id" :: .words " = " :: graph]
    | none, some speaker =>
        if scope.hasTurn then
          (Target.turnTable? scene.schema).map fun table =>
            [within [.column "related" "turn_annotation_id"]
              { columns := [[.column "turn" "annotation_id"]]
                source := relation table "turn"
                conditions := [turnSpeaker ++ .words " = " :: speaker] }]
        else none
    | none, none => none

/-- The main speakers of the row's graph, or of any graph if it has none, and of
these the row's speaker if it has one. -/
def ofMainSpeaker (scene : Scene) : List Fragment :=
  let graph := scene.target.graph?.toList.map fun graph => .words "ag_id = " :: graph
  let speaker := (scene.target.speaker? scene.schema).toList.map fun speaker =>
    .column "related" "speaker_number" :: .words " = " :: speaker
  within [.column "related" "speaker_number"]
    (speakings "speaker_number" (graph ++ [[.words "main_speaker <> 0"]])) :: speaker

def namedAttribute (name : String) : Fragment :=
  [.column "related" "layer", .words " = ", .marker name]

/-- The rows of a layer that belong to the subject's row, if any can. -/
def related? (scene : Scene) : Storage → Option Related
  | .temporal scope table =>
      (scene.ofInterval? scope).map fun conditions =>
        { rows :=
            { source := relation (layerTable table) "related"
              joins :=
                [.inner [.words "anchor"] "related_start"
                    [equalColumns ("related_start", "anchor_id") ("related", "start_anchor_id")],
                  .inner [.words "anchor"] "related_end"
                    [equalColumns ("related_end", "anchor_id") ("related", "end_anchor_id")]]
              conditions }
          order :=
            [[.column "related_start" "offset"], [.column "related_end" "offset"],
              [.column "related" "annotation_id"]] }
  | .attributed .transcript name =>
      (scene.ofGraph? ("related", "ag_id")).map fun condition =>
        { rows :=
            { source := relation "annotation_transcript" "related"
              conditions := [namedAttribute name, condition] }
          order := [[.column "related" "annotation_id"]] }
  | .attributed .participant name =>
      scene.ofSpeaker?.map fun condition =>
        { rows :=
            { source := relation "annotation_participant" "related"
              conditions := [namedAttribute name, condition] }
          order := [[.column "related" "annotation_id"]] }
  | .entity .corpus =>
      (scene.ofGraph? ("related", "ag_id")).map fun condition =>
        { rows := { source := relation "transcript" "related", conditions := [condition] }
          order := [[.column "related" "ag_id"]] }
  | .entity .episode =>
      (scene.ofGraph? ("related_transcript", "ag_id")).map fun condition =>
        { rows :=
            { source := relation "transcript_family" "related"
              joins :=
                [.inner [.words "transcript"] "related_transcript"
                  [equalColumns ("related_transcript", "family_id") ("related", "family_id")]]
              conditions := [condition] }
          order := [[.column "related" "family_id"]] }
  | .entity .participant =>
      scene.ofSpeaker?.map fun condition =>
        { rows := { source := relation "speaker" "related", conditions := [condition] }
          order := [[.column "related" "name"]] }
  | .entity .mainParticipant =>
      some
        { rows := { source := relation "speaker" "related", conditions := scene.ofMainSpeaker }
          order := [[.column "related" "name"]] }

/-- What a layer function is about. -/
inductive Reference where
  /-- The subject's row itself. -/
  | subject
  | other (entry : Entry) (related : Related)
  /-- Nothing that could be referred to. -/
  | none

/-- What a layer function that names a layer is about.  Annotations in time that
belong to another are found by the anchors of both. -/
def refer (scene : Scene) (id : String) : Noted Reference :=
  match scene.schema.entry? id with
  | .none => .problem (.unknownLayer id) .none
  | .some entry =>
      if scene.target.layerId? = .some id then pure .subject
      else
        match scene.related? entry.storage with
        | .none => scene.notApplicable ("references to layer " ++ entry.layer.id) .none
        | .some related =>
            if entry.storage.isTemporal && scene.target.isInterval then
              .usingAnchors (.other entry related)
            else pure (.other entry related)

end Scene

end CorpusQuery.Filter
