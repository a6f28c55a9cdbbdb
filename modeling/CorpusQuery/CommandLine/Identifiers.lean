import CorpusQuery.CommandLine.Command
import CorpusQuery.CommandLine.Session
import CorpusQuery.Json.Printer
import CorpusQuery.MatchId.Codec
import CorpusQuery.Text.Quoted
import CorpusQuery.Uid

namespace CorpusQuery.CommandLine

/-! Match identifiers taken apart and put together. -/

/-! ### Taking apart -/

def describeUid (uid : String) : String :=
  match Uid.read? uid with
  | some (.temporal scope table number) =>
      "annotation " ++ Number.text number ++ " of table " ++ Number.text table ++ " (" ++
        scope.name ++ " scope)"
  | some (.attributed .transcript name number) =>
      "transcript attribute " ++ name ++ " #" ++ Number.text number
  | some (.attributed .participant name number) =>
      "participant attribute " ++ name ++ " #" ++ Number.text number
  | none => "unrecognized uid"

/-- A line for each field. -/
def idLines (id : MatchId) : List String :=
  ["graph      " ++ Number.text id.graph] ++
  (match id.defining with
    | some (.uid uid) => ["defining   " ++ uid ++ "  " ++ describeUid uid]
    | some (.anchors start stop) =>
        ["anchors    " ++ Number.text start ++ " .. " ++ Number.text stop]
    | none => []) ++
  id.speaker.toList.map ("speaker    " ++ Number.text ·) ++
  id.target.toList.map (fun uid => "target     " ++ uid ++ "  " ++ describeUid uid) ++
  id.exportName.toList.map ("prefix     " ++ ·) ++
  id.slots.entries.map fun (name, uid) => "[" ++ name ++ "]  " ++ uid

/-- The fields as an object, those without a value left out. -/
def idJson (id : MatchId) : Json :=
  let integer (number : Int64) : Json := .integer number.toInt
  .object <|
    [("graph_id", integer id.graph)] ++
    (match id.defining with
      | some (.uid uid) => [("defining_annotation", .text uid)]
      | some (.anchors start stop) =>
          [("start_anchor_id", integer start), ("end_anchor_id", integer stop)]
      | none => []) ++
    Json.whenSome "speaker_number" integer id.speaker ++
    Json.whenSome "target" .text id.target ++
    Json.whenSome "prefix" .text id.exportName ++
    (if id.slots.entries.isEmpty then []
      else [("slots", .object (id.slots.entries.map fun (name, uid) => (name, .text uid)))]) ++
    [("canonical", .text id.encode)]

def takeApart (text : String) (format : Format) : Session String := do
  let id ← Session.attempt ("cannot decode " ++ Text.quoted text) IdError.message
    (MatchId.decode text)
  match format with
  | .text => return String.intercalate "\n" (idLines id) ++ "\n"
  | .json => return (idJson id).pretty "" ++ "\n"

/-! ### Putting together -/

/-- Two numbers with a dash between them. -/
def readAnchors (text : String) : Except Failure (Int64 × Int64) := do
  match Text.cut '-' text.toList with
  | none => throw { message := "anchors must look like START-END, got " ++ Text.quoted text }
  | some (start, stop) =>
      let number (name : String) (chars : List Char) : Except Failure Int64 :=
        (Number.read (Text.trim chars)).mapError fun fault =>
          { message := "invalid " ++ name ++ " anchor id", cause := some fault.message }
      return (← number "start" start, ← number "end" stop)

/-- A name and a uid with an equals sign between them; the name could not be read
back with a closing bracket in it, nor the uid if it is empty. -/
def readSlot (text : String) : Except Failure (String × String) :=
  match Text.cut '=' text.toList with
  | some (name, uid) =>
      if uid = [] ∨ ']' ∈ name then refusal
      else .ok (String.ofList name, String.ofList uid)
  | none => refusal
where
  refusal : Except Failure (String × String) :=
    .error { message := "slots must look like NAME=UID, got " ++ Text.quoted text }

namespace IdFields

/-- The identifier with these fields. -/
def build (fields : IdFields) : Except Failure MatchId := do
  let id := MatchId.ofGraph fields.graph
  let id := fields.uid.elim id id.withUid
  let anchors ← fields.anchors.mapM readAnchors
  let id := anchors.elim id fun (start, stop) => id.withAnchors start stop
  let id := fields.speaker.elim id id.withSpeaker
  let id := fields.target.elim id id.withTarget
  let id := fields.exportName.elim id id.withExportName
  let slots ← fields.slots.mapM readSlot
  return slots.foldl (fun id (name, uid) => id.withSlot name uid) id

end IdFields

/-- The text of the identifier, which has to be one; it should be that of the same
match. -/
def putTogether (fields : IdFields) : Session String := do
  let id ← liftExcept fields.build
  let text := id.encode
  let back ← Session.attempt ("encoded id " ++ Text.quoted text ++ " does not decode")
    IdError.message (MatchId.decode text)
  if ¬back.Same id then
    Session.say (.warning (text ++ " decodes to a different match"))
  return text ++ "\n"
where
  liftExcept : Except Failure MatchId → Session MatchId
    | .ok id => pure id
    | .error failure => throw failure

end CorpusQuery.CommandLine
