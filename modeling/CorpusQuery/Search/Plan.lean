import CorpusQuery.Rows
import CorpusQuery.Search.Resolved

namespace CorpusQuery.Search

/-! The statement of a search before it is written: the rows that are joined, what
ties them together, and what becomes of them. -/

open Sql

/-! ### Rows and columns -/

/-- The two ends of an annotation. -/
inductive Edge where
  | start
  | stop
deriving DecidableEq, Repr

/-- The rows that a search is about. -/
inductive Alias where
  | turn
  /-- The row of a match, by its column and its place there. -/
  | found (column place : Nat)
  /-- The word of a column that asks nothing of words. -/
  | word (column : Nat)
  /-- The word after that of a column. -/
  | next (column : Nat)
  /-- The word before that of a column. -/
  | previous (column : Nat)
  /-- The anchor at one end of a row. -/
  | anchor (row : Alias) (edge : Edge)
  /-- Some word within an annotation. -/
  | otherWord
  /-- The anchor at the start of that word. -/
  | otherStart
deriving DecidableEq, Repr

def Edge.name : Edge → String
  | .start => "start"
  | .stop => "end"

namespace Alias

def name : Alias → String
  | turn => "turn"
  | found column place => "search_" ++ toString column ++ "_" ++ toString place
  | word column => "word_" ++ toString column
  | next column => "next_" ++ toString column
  | previous column => "previous_" ++ toString column
  | anchor row edge => row.name ++ "_" ++ edge.name
  | otherWord => "other_word"
  | otherStart => "other_start"

end Alias

/-- A column of a row. -/
structure Cell where
  row : Alias
  column : String
deriving DecidableEq, Repr

def Cell.piece (cell : Cell) : Piece :=
  .column cell.row.name cell.column

namespace Alias

def id (row : Alias) : Cell := ⟨row, "annotation_id"⟩

def graph (row : Alias) : Cell := ⟨row, "ag_id"⟩

def label (row : Alias) : Cell := ⟨row, "label"⟩

def turnId (row : Alias) : Cell := ⟨row, "turn_annotation_id"⟩

def wordId (row : Alias) : Cell := ⟨row, "word_annotation_id"⟩

/-- The place of a word in its turn, counted from one. -/
def ordinalInTurn (row : Alias) : Cell := ⟨row, "ordinal_in_turn"⟩

/-- The place of a segment in its word. -/
def ordinalInWord (row : Alias) : Cell := ⟨row, "ordinal_in_word"⟩

/-- The number of the anchor at one end of a row. -/
def anchorId (row : Alias) (edge : Edge) : Cell := ⟨row, edge.name ++ "_anchor_id"⟩

/-- The place in time of one end of a row. -/
def offset (row : Alias) (edge : Edge) : Cell := ⟨row.anchor edge, "offset"⟩

/-- The number of the word that a row of a layer of words is about. -/
def wordOf (schema : Schema) (layer : TimedLayer) (row : Alias) : Cell :=
  if schema.plays .word layer.id then row.id else row.wordId

end Alias

/-! ### What ties rows together -/

inductive Ordering where
  | equal
  | before
  | notAfter
  | after
  | notBefore
deriving DecidableEq, Repr

def Ordering.symbol : Ordering → String
  | equal => "="
  | before => "<"
  | notAfter => "<="
  | after => ">"
  | notBefore => ">="

/-- A condition on rows that no text of the caller's has a part in. -/
inductive Tie where
  | compare (ordering : Ordering) (left right : Cell)
  /-- The left place is the one after the right. -/
  | following (left right : Cell)
  /-- The left place is the one before the right. -/
  | preceding (left right : Cell)
  /-- The left place is at least one after the right, and at most `distance`. -/
  | within (distance : Nat) (left right : Cell)
  /-- The anchor's status is the threshold or better. -/
  | trusted (anchor : Alias) (threshold : Int64)
deriving DecidableEq, Repr

namespace Tie

def equal (left right : Cell) : Tie :=
  .compare .equal left right

/-- The later word follows the earlier one at this distance or a smaller one. -/
def adjacent (distance : Nat) (later earlier : Alias) : Tie :=
  if distance ≤ 1 then .following later.ordinalInTurn earlier.ordinalInTurn
  else .within distance later.ordinalInTurn earlier.ordinalInTurn

def fragment : Tie → Fragment
  | .compare ordering left right =>
      [left.piece, .words (" " ++ ordering.symbol ++ " "), right.piece]
  | .following left right => [left.piece, .words " = ", right.piece, .words " + 1"]
  | .preceding left right => [left.piece, .words " = ", right.piece, .words " - 1"]
  | .within distance left right =>
      [left.piece, .words " BETWEEN ", right.piece, .words " + 1 ", .and, right.piece,
        .words (" + " ++ toString distance)]
  | .trusted anchor threshold =>
      [.column anchor.name "alignment_status", .words " >= ", .bound (.integer threshold)]

end Tie

/-! ### Joined rows -/

inductive Table where
  | layer (number : Int64)
  | anchors
deriving DecidableEq, Repr

def Table.name : Table → String
  | layer number => layerTable number
  | anchors => "anchor"

structure Source where
  kind : JoinKind := .inner
  table : Table
  row : Alias
  ties : List Tie
deriving DecidableEq, Repr

namespace Source

/-- A row of a layer. -/
def ofLayer (layer : TimedLayer) (row : Alias) (ties : List Tie) : Source :=
  { table := .layer layer.table, row, ties }

/-- The anchor at one end of a row, which has to reach the threshold. -/
def anchor (confidence : Option Int64) (row : Alias) (edge : Edge) (ties : List Tie) : Source :=
  { table := .anchors
    row := row.anchor edge
    ties :=
      .equal ⟨row.anchor edge, "anchor_id"⟩ (row.anchorId edge) ::
        confidence.toList.map (.trusted (row.anchor edge)) ++ ties }

/-- Both anchors of a row, if there is a threshold that they have to reach. -/
def thresholdAnchors (confidence : Option Int64) (row : Alias) : List Source :=
  if confidence.isSome then [anchor confidence row .start [], anchor confidence row .stop []]
  else []

def join (source : Source) : Join :=
  ⟨source.kind, [.words source.table.name], source.row.name, source.ties.map Tie.fragment⟩

/-- Adds a source, unless its row is there already. -/
def addOnce (sources : List Source) (source : Source) : List Source :=
  if sources.any (·.row == source.row) then sources else sources ++ [source]

/-- The sources in their order, each row from the first source that has it. -/
def once (sources : List Source) : List Source :=
  sources.foldl addOnce []

end Source

/-! ### Conditions -/

inductive Condition where
  /-- What a match asks of the label of its row. -/
  | label (row : Alias) (wanted : LayerMatch)
  /-- The word is the first of its turn. -/
  | first (word : Alias)
  /-- There is no such row. -/
  | absent (row : Alias)
  | absentOr (row : Alias) (tie : Tie)
  /-- No other word is tied to the rows in all of these ways. -/
  | noOtherWord (words : TimedLayer) (ties : List Tie)
deriving DecidableEq

namespace Condition

/-- A label as a number. -/
def numericLabel (row : Alias) : Fragment :=
  apply "CAST" [row.label.piece, .words " AS DECIMAL(15,5)"]

def bounds (row : Alias) (wanted : LayerMatch) : List Fragment :=
  (wanted.min.toList.map fun min =>
    numericLabel row ++ [.words " >= ", .bound (.number min)]) ++
  (wanted.max.toList.map fun max =>
    numericLabel row ++ [.words " < ", .bound (.number max)])

def labelFragment (row : Alias) (wanted : LayerMatch) : Fragment :=
  match wanted.labelRegex with
  | some regex =>
      [row.label.piece, .words (if wanted.negated then " NOT REGEXP " else " REGEXP "),
        .bound (.text regex)]
  | none =>
      let range := Fragment.conjunction (bounds row wanted)
      if wanted.negated then .not :: range.parenthesized else range

def fragment : Condition → Fragment
  | .label row wanted => labelFragment row wanted
  | .first word => [word.ordinalInTurn.piece, .words " = 1"]
  | .absent row => [row.id.piece, .words " IS NULL"]
  | .absentOr row tie =>
      Fragment.parenthesized
        (Fragment.disjunction [[row.id.piece, .words " IS NULL"], tie.fragment])
  | .noOtherWord words ties =>
      .not ::
        existing
          { columns := [[.words "*"]]
            source := relation (layerTable words.table) Alias.otherWord.name
            joins :=
              [.inner [.words Table.anchors.name] Alias.otherStart.name
                [(Tie.equal ⟨.otherStart, "anchor_id"⟩
                  (Alias.otherWord.anchorId .start)).fragment]]
            conditions := ties.map Tie.fragment }

/-- What a match asks of the label of its row, if anything. -/
def ofLabel (row : Alias) (wanted : LayerMatch) : List Condition :=
  if wanted.hasCondition then [.label row wanted] else []

end Condition

/-! ### Results -/

/-- The turn of a match, and its first and last word. -/
structure Placing where
  turn : Cell
  firstWord : Cell
  lastWord : Cell
deriving DecidableEq, Repr

/-- What is recorded of a match. -/
structure Result where
  graph : Cell
  start : Cell
  stop : Cell
  /-- The annotation that tells the match from others. -/
  defining : Alias
  segment : Option Alias
  /-- The annotation that the search is after. -/
  target : Alias
  targetLayer : TimedLayer
  /-- Nothing for a match that may lie across turns. -/
  placing : Option Placing
deriving DecidableEq, Repr

/-- The columns of the table of matches. -/
def resultColumns : List String :=
  ["search_id", "ag_id", "speaker_number", "start_anchor_id", "end_anchor_id",
    "defining_annotation_id", "segment_annotation_id", "target_annotation_id",
    "turn_annotation_id", "first_matched_word_annotation_id",
    "last_matched_word_annotation_id", "complete", "target_annotation_uid"]

/-- The table of matches with its columns. -/
def resultTable : String :=
  "_result (" ++ String.intercalate ", " resultColumns ++ ")"

namespace Result

def orNull : Option Cell → Fragment
  | some cell => [cell.piece]
  | none => [.words "NULL"]

/-- The speaker of the turn, if the match lies in one. -/
def speaker? (result : Result) : Option Fragment :=
  result.placing.map fun _ => turnSpeaker

/-- The values for the columns of the table of matches. -/
def columns (result : Result) (searchId : Int64) : List Fragment :=
  [[.bound (.integer searchId)],
    [result.graph.piece],
    result.speaker?.getD [.words "NULL"],
    [result.start.piece],
    [result.stop.piece],
    [result.defining.id.piece],
    orNull (result.segment.map Alias.id),
    [result.target.id.piece],
    orNull (result.placing.map Placing.turn),
    orNull (result.placing.map Placing.firstWord),
    orNull (result.placing.map Placing.lastWord),
    [.words "0"],
    uidFrom (Storage.temporalStem result.targetLayer.scope result.targetLayer.table)
      [result.target.id.piece]]

end Result

/-! ### Plans -/

/-- All that a search reads and records, before it is restricted to some
transcripts and participants. -/
structure Plan where
  layer : TimedLayer
  row : Alias
  joins : List Source
  conditions : List Condition
  result : Result
  order : List Cell
deriving DecidableEq

namespace Plan

def select (plan : Plan) (searchId : Int64) : Select :=
  { into := some [.words resultTable]
    columns := plan.result.columns searchId
    source := relation (layerTable plan.layer.table) plan.row.name
    joins := plan.joins.map Source.join
    conditions := plan.conditions.map Condition.fragment
    order := plan.order.map fun cell => [cell.piece] }

end Plan

end CorpusQuery.Search
