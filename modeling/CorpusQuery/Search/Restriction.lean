import CorpusQuery.Access
import CorpusQuery.Search.Plan

namespace CorpusQuery.Search

/-! What confines a search to some transcripts and participants, whatever it
searches for. -/

open Sql

structure Options where
  /-- The number of the search, recorded with every match. -/
  searchId : Int64 := 0
  /-- A `SELECT` of the graphs to search. -/
  transcripts : Option Fragment := none
  /-- A `SELECT` of the speakers to search. -/
  participants : Option Fragment := none
  mainParticipantOnly : Bool := false
  /-- The least status of the anchors that the search relies on. -/
  minConfidence : Option Int64 := none
  access : Option Access := none

namespace Options

def transcriptCondition (graph filter : Fragment) : Fragment :=
  graph ++ .words " IN " :: filter.parenthesized

/-- The speaker is among those of the filter, or some speaker of the graph is. -/
def participantCondition (graph : Fragment) (speaker : Option Fragment) (filter : Fragment) :
    Fragment :=
  match speaker with
  | some speaker => speaker ++ .words " IN " :: filter.parenthesized
  | none =>
      graph ++ .words " IN " ::
        Fragment.parenthesized
          (.words "SELECT ag_id FROM transcript_speaker WHERE speaker_number IN " ::
            filter.parenthesized)

/-- The row that says whether the speaker is a main participant.  Without a speaker
it is one row for each graph, so that no match is doubled. -/
def mainParticipantJoin (graph : Fragment) (speaker : Option Fragment) : Join :=
  match speaker with
  | some speaker =>
      .inner [.words "transcript_speaker"] "main_participant"
        [[.column "main_participant" "ag_id", .words " = "] ++ graph,
          [.column "main_participant" "speaker_number", .words " = "] ++ speaker]
  | none =>
      .inner
        (Fragment.parenthesized
          [.words "SELECT ag_id, MAX(main_speaker) AS main_speaker ",
            .words "FROM transcript_speaker GROUP BY ag_id"])
        "main_participant"
        [[.column "main_participant" "ag_id", .words " = "] ++ graph]

/-- The conjuncts that confine a search, in their order. -/
def conditions (options : Options) (graph : Fragment) (speaker : Option Fragment) :
    List Fragment :=
  options.transcripts.toList.map (transcriptCondition graph) ++
  options.participants.toList.map (participantCondition graph speaker) ++
  (if options.mainParticipantOnly then
    [[.column "main_participant" "main_speaker", .words " <> 0"]]
  else []) ++
  options.access.toList.map (·.restriction graph)

/-- The source that confines a search. -/
def joins (options : Options) (graph : Fragment) (speaker : Option Fragment) : List Join :=
  if options.mainParticipantOnly then [mainParticipantJoin graph speaker] else []

/-- The statement with what confines it after all else of its kind. -/
def restrict (options : Options) (graph : Fragment) (speaker : Option Fragment)
    (select : Select) : Select :=
  { select with
    joins := select.joins ++ options.joins graph speaker
    conditions := select.conditions ++ options.conditions graph speaker }

end Options

end CorpusQuery.Search
