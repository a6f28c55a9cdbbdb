namespace CorpusQuery

/-! The layers of an annotated corpus, as their owner describes them. -/

inductive Alignment where
  /-- Annotations take the anchors of their parent. -/
  | none
  /-- Annotations have a start and an end anchor of their own. -/
  | interval
deriving DecidableEq, Repr

inductive ValueType where
  | string
  | number
  | ipa
deriving DecidableEq, Repr

/-- How the annotations of a layer in time relate to turns and words. -/
inductive Scope where
  /-- Free in time, below the graph itself. -/
  | span
  /-- Within a turn. -/
  | phrase
  | word
  /-- Within a word. -/
  | segment
deriving DecidableEq, Repr

/-- What an attribute describes. -/
inductive Owner where
  | transcript
  | participant
deriving DecidableEq, Repr

/-- An attribute of transcripts or participants, one row of a shared table for
each value. -/
structure AttributeKey where
  owner : Owner
  name : String
deriving DecidableEq, Repr

structure Layer where
  id : String
  description : String
  alignment : Alignment := .none
  peers : Bool := false
  peersOverlap : Bool := false
  saturated : Bool := false
  parentId : Option String := none
  parentIncludes : Bool := false
  valueType : ValueType := .string
  /-- The number in the name of the table of a layer in time. -/
  tableId : Option Int64 := none
  scope : Option Scope := none
  attributeKey : Option AttributeKey := none
deriving DecidableEq, Repr

namespace Layer

/-- A layer that is described by its id and has nothing else set. -/
def ofId (id : String) : Layer :=
  { id, description := id }

end Layer

/-- The parts that a layer can play in a schema. -/
inductive Role where
  | participant
  | mainParticipant
  | turn
  | utterance
  | word
  | corpus
  | episode
deriving DecidableEq, Repr

namespace Role

def all : List Role :=
  [participant, mainParticipant, turn, utterance, word, corpus, episode]

def name : Role → String
  | participant => "participant"
  | mainParticipant => "main participant"
  | turn => "turn"
  | utterance => "utterance"
  | word => "word"
  | corpus => "corpus"
  | episode => "episode"

end Role

/-- The ids of the layers that play a part. -/
structure Roots where
  participant : Option String := none
  mainParticipant : Option String := none
  turn : Option String := none
  utterance : Option String := none
  word : Option String := none
  corpus : Option String := none
  episode : Option String := none
deriving DecidableEq, Repr

namespace Roots

def layer? (roots : Roots) : Role → Option String
  | .participant => roots.participant
  | .mainParticipant => roots.mainParticipant
  | .turn => roots.turn
  | .utterance => roots.utterance
  | .word => roots.word
  | .corpus => roots.corpus
  | .episode => roots.episode

/-- The parts that a layer plays, in the order of `Role.all`. -/
def rolesOf (roots : Roots) (id : String) : List Role :=
  Role.all.filter fun role => roots.layer? role == some id

end Roots

end CorpusQuery
