import CorpusQuery.CommandLine.Command
import CorpusQuery.CommandLine.Loading
import CorpusQuery.Json.Printer

namespace CorpusQuery.CommandLine

/-! Schemas checked, and their layers listed with where each is stored. -/

/-- The kind of a layer, for a reader. -/
def kindTitle : Storage → String
  | .temporal .span _ => "span"
  | .temporal .phrase _ => "phrase"
  | .temporal .word _ => "word"
  | .temporal .segment _ => "segment"
  | .attributed .transcript _ => "transcript attribute"
  | .attributed .participant _ => "participant attribute"
  | .entity .participant => "participant"
  | .entity .mainParticipant => "main participant"
  | .entity .corpus => "corpus"
  | .entity .episode => "episode"

/-- The kind of a layer, in JSON. -/
def kindKey : Storage → String
  | .temporal .span _ => "span"
  | .temporal .phrase _ => "phrase"
  | .temporal .word _ => "word"
  | .temporal .segment _ => "segment"
  | .attributed .transcript _ => "transcript_attribute"
  | .attributed .participant _ => "participant_attribute"
  | .entity .participant => "participant_entity"
  | .entity .mainParticipant => "main_participant_entity"
  | .entity .corpus => "corpus_entity"
  | .entity .episode => "episode_entity"

/-- A text filled up with spaces to a number of characters. -/
def padded (width : Nat) (text : String) : String :=
  text ++ String.ofList (List.replicate (width - text.length) ' ')

def roleNames (schema : Schema) (entry : Entry) : List String :=
  (schema.roots.rolesOf entry.layer.id).map Role.name

def entryLine (schema : Schema) (entry : Entry) : String :=
  let roles := roleNames schema entry
  let place :=
    match entry.storage with
    | .temporal _ table => " " ++ layerTable table
    | .attributed _ name => " attribute " ++ name
    | .entity _ => ""
  padded 24 entry.layer.id ++ " " ++ padded 22 (kindTitle entry.storage) ++ place ++
    (if roles.isEmpty then "" else " [" ++ String.intercalate ", " roles ++ "]")

def entryJson (schema : Schema) (entry : Entry) : Json :=
  let roles := roleNames schema entry
  .object <|
    [("id", .text entry.layer.id)] ++
    Json.whenSome "parent" .text entry.layer.parentId ++
    [("kind", .text (kindKey entry.storage))] ++
    Json.whenSome "table_id" (fun table => .integer table.toInt) entry.storage.tableId ++
    Json.whenSome "attribute" .text entry.storage.attributeName ++
    Json.whenSome "table" .text entry.storage.table ++
    Json.whenSome "uid_prefix" .text entry.storage.uidStem ++
    (if roles.isEmpty then [] else [("roles", .list (roles.map .text))])

/-- Whether the schema says which layers are turns and words. -/
def isSearchable (schema : Schema) : Bool :=
  (schema.designated? .word).isSome && (schema.designated? .turn).isSome

def closingLine (schema : Schema) : String :=
  "ok " ++ toString schema.entries.length ++ " layers" ++
    (if isSearchable schema then ""
    else " (no word and turn layers: matrix searches are unavailable)")

def survey (files : Files) (path : String) (format : Format) : Session String := do
  let schema ← loadSchema files path
  match format with
  | .text =>
      let lines := schema.entries.map (entryLine schema) ++ [closingLine schema]
      return String.join (lines.map (· ++ "\n"))
  | .json => return Json.pretty "" (.list (schema.entries.map (entryJson schema))) ++ "\n"

end CorpusQuery.CommandLine
