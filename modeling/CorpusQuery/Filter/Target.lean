import CorpusQuery.Access
import CorpusQuery.Filter.Noted
import CorpusQuery.Rows
import CorpusQuery.Schema.Basic

namespace CorpusQuery.Filter

/-! What an expression selects, and the rows that stand for it. -/

open Sql

inductive Subject where
  /-- The annotations of a layer. -/
  | layer (id : String)
  | participants
  | transcripts
deriving DecidableEq, Repr

/-- A subject as its schema knows it. -/
inductive Target where
  /-- Annotations in time, rows of a table of their own. -/
  | intervals (layer : Layer) (scope : Scope) (table : Int64)
  /-- Values of an attribute, rows of a shared table. -/
  | attributed (layer : Layer) (owner : Owner) (name : String)
  | participants (layer : Option Layer) (mainOnly : Bool)
  | transcripts
  /-- The subject is itself a problem.  The expression is still examined, but
  nothing that concerns the row is a problem of its own. -/
  | unresolved
deriving DecidableEq, Repr

namespace Target

def resolveLayer (schema : Schema) (id : String) : Noted Target :=
  match schema.entry? id with
  | none => .problem (.unknownLayer id) unresolved
  | some ⟨layer, .temporal scope table⟩ => pure (intervals layer scope table)
  | some ⟨layer, .attributed owner name⟩ => pure (attributed layer owner name)
  | some ⟨layer, .entity .participant⟩ => pure (participants (some layer) false)
  | some ⟨layer, .entity .mainParticipant⟩ => pure (participants (some layer) true)
  | some ⟨_, .entity .corpus⟩ | some ⟨_, .entity .episode⟩ =>
      .problem (.notApplicable ("layer " ++ id) "expression subjects") unresolved

def resolve (schema : Schema) : Subject → Noted Target
  | .layer id => resolveLayer schema id
  | .participants =>
      pure (participants ((schema.designated? .participant).map Entry.layer) false)
  | .transcripts => pure transcripts

def layer? : Target → Option Layer
  | intervals layer _ _ => some layer
  | attributed layer _ _ => some layer
  | participants layer _ => layer
  | transcripts | unresolved => none

def layerId? (target : Target) : Option String :=
  target.layer?.map Layer.id

/-- The storage of a target whose rows are annotations. -/
def storage? : Target → Option Storage
  | intervals _ scope table => some (.temporal scope table)
  | attributed _ owner name => some (.attributed owner name)
  | _ => none

def describe : Target → String
  | intervals layer _ _ => "layer " ++ layer.id
  | attributed layer _ _ => "layer " ++ layer.id
  | participants .. => "participants"
  | transcripts => "transcripts"
  | unresolved => "an unresolved subject"

def isInterval : Target → Bool
  | intervals .. => true
  | _ => false

def hasTurn : Target → Bool
  | intervals _ scope _ => scope.hasTurn
  | _ => false

/-- The graph of the row, if it has exactly one. -/
def graph? : Target → Option Fragment
  | intervals .. => some [.column "annotation" "ag_id"]
  | attributed _ .transcript _ => some [.column "annotation" "ag_id"]
  | transcripts => some [.column "transcript" "ag_id"]
  | _ => none

/-- The table of the turn layer, if its rows are annotations in time. -/
def turnTable? (schema : Schema) : Option String :=
  (schema.designated? .turn).bind fun entry => entry.storage.table

/-- The speaker of the row, if it has exactly one; that of an annotation within a
turn is the turn's. -/
def speaker? (schema : Schema) : Target → Option Fragment
  | attributed _ .participant _ => some [.column "annotation" "speaker_number"]
  | participants .. => some [.column "speaker" "speaker_number"]
  | intervals _ scope _ =>
      if scope.hasTurn then
        (turnTable? schema).map fun table =>
          Fragment.parenthesized
            (Select.subquery
              { columns := [turnSpeaker]
                source := relation table "turn"
                conditions :=
                  [equalColumns ("turn", "annotation_id")
                    ("annotation", "turn_annotation_id")] })
      else none
  | _ => none

/-! ### The statement around a condition -/

/-- In what order rows come. -/
inductive RowOrder where
  /-- By graph, then by place in time, then by what tells rows apart. -/
  | standard
  /-- By some terms first. -/
  | after (terms : List Fragment)
  | unordered

structure Options where
  /-- The columns to select, instead of all of the row. -/
  select : Option Fragment := none
  access : Option Access := none
  /-- A further conjunct. -/
  extra : Option Fragment := none
  order : RowOrder := .standard
  limit : Option Fragment := none

def standardOrder : Target → List Fragment
  | intervals .. =>
      [[.column "annotation" "ag_id"], [.column "start_anchor" "offset"],
        [.column "end_anchor" "offset"], [.column "annotation" "parent_id"],
        [.column "annotation" "ordinal"], [.column "annotation" "annotation_id"]]
  | attributed _ .transcript _ =>
      [[.column "annotation" "ag_id"], [.column "annotation" "annotation_id"]]
  | attributed _ .participant _ =>
      [[.column "annotation" "speaker_number"], [.column "annotation" "annotation_id"]]
  | participants .. => [[.column "speaker" "name"], [.column "speaker" "speaker_number"]]
  | transcripts => [[.column "transcript" "transcript_id"], [.column "transcript" "ag_id"]]
  | unresolved => []

/-- The name of the target's row and its source. -/
def row : Target → String × Fragment
  | intervals _ _ table => ("annotation", relation (layerTable table) "annotation")
  | attributed _ .transcript _ => ("annotation", relation "annotation_transcript" "annotation")
  | attributed _ .participant _ => ("annotation", relation "annotation_participant" "annotation")
  | participants .. => ("speaker", relation "speaker" "speaker")
  | transcripts | unresolved => ("transcript", relation "transcript" "transcript")

/-- The conditions that pick the target's rows from their source. -/
def own : Target → List Fragment
  | attributed _ _ name => [[.column "annotation" "layer", .words " = ", .marker name]]
  | participants _ true =>
      [existing
        { columns := [[.words "*"]]
          source := relation "transcript_speaker" "main_participant"
          conditions :=
            [equalColumns ("main_participant", "speaker_number") ("speaker", "speaker_number"),
              [.column "main_participant" "main_speaker", .words " <> 0"]] }]
  | _ => []

def anchorJoins : List Join :=
  [.inner [.words "anchor"] "start_anchor"
      [equalColumns ("start_anchor", "anchor_id") ("annotation", "start_anchor_id")],
    .inner [.words "anchor"] "end_anchor"
      [equalColumns ("end_anchor", "anchor_id") ("annotation", "end_anchor_id")]]

def transcriptJoin : Join :=
  .inner [.words "transcript"] "transcript"
    [equalColumns ("transcript", "ag_id") ("annotation", "ag_id")]

/-- The restriction of the row's graph, or of some graph that its speaker speaks
in. -/
def accessCondition (schema : Schema) (target : Target) (access : Access) : Fragment :=
  match access with
  | .condition _ => access.restriction []
  | .user _ =>
      match target.graph?, target.speaker? schema with
      | some graph, _ => access.restriction graph
      | none, some speaker =>
          existing
            { columns := [[.words "*"]]
              source := relation "transcript_speaker" "access_speaker"
              conditions :=
                [.column "access_speaker" "speaker_number" :: .words " = " :: speaker,
                  access.restriction [.column "access_speaker" "ag_id"]] }
      | none, none => access.restriction [.words "NULL"]

/-- The terms to order rows by. -/
def orderTerms (target : Target) : RowOrder → List Fragment
  | .standard => target.standardOrder
  | .after terms => terms ++ target.standardOrder
  | .unordered => []

def ordered : RowOrder → Bool
  | .unordered => false
  | _ => true

/-- The rows of the target that meet a condition.  The anchors are joined for their
own sake or for the order, the transcript only for its own. -/
def select (schema : Schema) (target : Target) (options : Options) (condition : Noted Fragment) :
    Select :=
  let (name, source) := target.row
  let labels : List Fragment :=
    target.layerId?.toList.map fun id => [.marker id, .words " AS layer"]
  let joins :=
    (if target.isInterval && (condition.anchors || ordered options.order) then anchorJoins
      else []) ++
    (if condition.transcript then [transcriptJoin] else [])
  let conditions :=
    target.own ++ [condition.value] ++
    options.extra.toList.map Fragment.parenthesized ++
    options.access.toList.map (accessCondition schema target)
  conditions.foldl Select.restrict
    { columns := options.select.getD [.column name "*"] :: labels
      source
      joins
      order := target.orderTerms options.order
      limit := options.limit }

end Target

end CorpusQuery.Filter
