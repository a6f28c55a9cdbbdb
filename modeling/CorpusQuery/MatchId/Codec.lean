import CorpusQuery.MatchId.Basic
import CorpusQuery.Text.Blank
import CorpusQuery.Text.Fields

namespace CorpusQuery

/-! The text of match identifiers: fields between semicolons, of which only the
graph has to be there.  They are written in one order and read in any. -/

inductive IdError where
  | empty
  | missingGraph (text : String)
  | malformed (field : String)
  | duplicate (field : String)
  | ambiguousDefinition
  | invalidUid (text : String)
deriving DecidableEq, Repr

namespace IdError

def message : IdError → String
  | .empty => "empty identifier"
  | .missingGraph text => "identifier has no graph field: " ++ text
  | .malformed field => "malformed identifier field: " ++ field
  | .duplicate field => "duplicate identifier field: " ++ field
  | .ambiguousDefinition => "identifier has both a defining annotation and an anchor range"
  | .invalidUid text => "malformed annotation uid: " ++ text

end IdError

namespace MatchId

/-- One field of an identifier. -/
inductive Field where
  | graph (id : Int64)
  | uid (text : String)
  | anchors (start stop : Int64)
  | speaker (number : Int64)
  | target (uid : String)
  | exportName (name : String)
  | slot (name uid : String)
deriving DecidableEq, Repr

namespace Field

def text : Field → String
  | .graph id => "g_" ++ Number.text id
  | .uid text => text
  | .anchors start stop => "n_" ++ Number.text start ++ "-" ++ Number.text stop
  | .speaker number => "p_" ++ Number.text number
  | .target value => "#=" ++ value
  | .exportName name => "prefix=" ++ name
  | .slot name value => "[" ++ name ++ "]=" ++ value

/-- Two numbers with a minus between them; each may have a minus of its own. -/
def readAnchors (chars : List Char) : Option Field :=
  let parts : Option (List Char × List Char) :=
    match chars with
    | '-' :: rest => (Text.cut '-' rest).map fun (digits, stop) => ('-' :: digits, stop)
    | rest => Text.cut '-' rest
  parts.bind fun (start, stop) => do
    return .anchors (← Number.signed? start) (← Number.signed? stop)

/-- A name without a closing bracket, and a uid that is not empty and has no line
feed. -/
def readSlot (chars : List Char) : Option Field :=
  match Text.cut ']' chars with
  | some (name, '=' :: value) =>
      if value = [] ∨ '\n' ∈ value then none
      else some (.slot (String.ofList name) (String.ofList value))
  | _ => none

/-- The field that a text is.  What starts like none of the others is the uid of
the defining annotation. -/
def read? (chars : List Char) : Option Field :=
  match chars with
  | [] => none
  | 'p' :: 'r' :: 'e' :: 'f' :: 'i' :: 'x' :: '=' :: name =>
      some (.exportName (String.ofList name))
  | '#' :: '=' :: value => if value = [] then none else some (.target (String.ofList value))
  | '[' :: rest => readSlot rest
  | 'g' :: '_' :: rest => (Number.signed? rest).map .graph
  | 'n' :: '_' :: rest => readAnchors rest
  | 'p' :: '_' :: rest => (Number.signed? rest).map .speaker
  | value => some (.uid (String.ofList value))

end Field

/-- The fields of an identifier in their written order. -/
def fields (id : MatchId) : List Field :=
  .graph id.graph ::
    (match id.defining with
      | some (.uid text) => [.uid text]
      | some (.anchors start stop) => [.anchors start stop]
      | none => []) ++
    id.speaker.toList.map .speaker ++
    id.target.toList.map .target ++
    id.exportName.toList.map .exportName ++
    id.slots.entries.map fun (name, uid) => .slot name uid

def encode (id : MatchId) : String :=
  String.intercalate ";" (id.fields.map Field.text)

/-- The fields read so far, at most one of each kind and of each slot name. -/
structure Parts where
  graph : Option Int64 := none
  uid : Option String := none
  anchors : Option (Int64 × Int64) := none
  speaker : Option Int64 := none
  target : Option String := none
  exportName : Option String := none
  slots : Slots := .empty

/-- A value for a part that has none yet. -/
def setOnce (field : String) (present : Option α) (value : α) : Except IdError (Option α) :=
  match present with
  | none => .ok (some value)
  | some _ => .error (.duplicate field)

def Parts.add (parts : Parts) : Field → Except IdError Parts
  | .graph id => (setOnce "g" parts.graph id).map ({ parts with graph := · })
  | .uid text => (setOnce "defining annotation" parts.uid text).map ({ parts with uid := · })
  | .anchors start stop =>
      (setOnce "n" parts.anchors (start, stop)).map ({ parts with anchors := · })
  | .speaker number => (setOnce "p" parts.speaker number).map ({ parts with speaker := · })
  | .target uid => (setOnce "#" parts.target uid).map ({ parts with target := · })
  | .exportName name =>
      (setOnce "prefix" parts.exportName name).map ({ parts with exportName := · })
  | .slot name uid =>
      if parts.slots.contains name then .error (.duplicate ("[" ++ name ++ "]"))
      else .ok { parts with slots := parts.slots.insert name uid }

def Parts.read (parts : Parts) (chars : List Char) : Except IdError Parts :=
  match Field.read? chars with
  | some field => parts.add field
  | none => .error (.malformed (String.ofList chars))

/-- The identifier with these parts, which must have a graph and not both an
annotation and anchors. -/
def Parts.finish (parts : Parts) (text : String) : Except IdError MatchId :=
  match parts.graph with
  | none => .error (.missingGraph text)
  | some graph =>
      let rest : MatchId :=
        { graph
          speaker := parts.speaker
          target := parts.target
          exportName := parts.exportName
          slots := parts.slots }
      match parts.uid, parts.anchors with
      | some _, some _ => .error .ambiguousDefinition
      | some uid, none => .ok { rest with defining := some (.uid uid) }
      | none, some (start, stop) => .ok { rest with defining := some (.anchors start stop) }
      | none, none => .ok rest

/-- The identifier that a text stands for. -/
def decode (text : String) : Except IdError MatchId :=
  if Text.allBlank text then .error .empty
  else
    match (Text.fields ';' text.toList).foldlM Parts.read {} with
    | .error error => .error error
    | .ok parts => parts.finish text

end MatchId

end CorpusQuery
