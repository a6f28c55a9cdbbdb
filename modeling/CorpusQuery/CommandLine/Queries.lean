import CorpusQuery.CommandLine.Command
import CorpusQuery.CommandLine.Loading
import CorpusQuery.Expression.Reading
import CorpusQuery.Filter.Condition
import CorpusQuery.Search.Strategy

namespace CorpusQuery.CommandLine

/-! Expressions and matrices compiled to statements. -/

open Sql

/-! ### Statements -/

/-- The statement, and below it the values of its placeholders, numbered. -/
def queryText (query : Query) : String :=
  let values := query.params.zipIdx 1 |>.map fun (value, place) =>
    "-- ?" ++ toString place ++ " = " ++ value.display ++ "\n"
  query.sql ++ "\n" ++ (if values.isEmpty then "" else "\n") ++ String.join values

def queryJson (query : Query) : Json :=
  .object [("sql", .text query.sql), ("parameters", .list (query.params.map Param.toJson))]

def showQuery (format : Format) (query : Query) : String :=
  match format with
  | .text => queryText query
  | .json => (queryJson query).pretty "" ++ "\n"

/-! ### Expressions -/

namespace FilterCommand

def subject (command : FilterCommand) : Session Filter.Subject :=
  match command.layer, command.participants, command.transcripts with
  | some layer, false, false => pure (.layer layer)
  | none, true, false => pure .participants
  | none, false, true => pure .transcripts
  | _, _, _ =>
      Session.fail "choose exactly one subject: --layer ID, --participants or --transcripts"

def order (command : FilterCommand) : Filter.Target.RowOrder :=
  if command.unordered then .unordered
  else if command.orderBy.isEmpty then .standard
  else .after (command.orderBy.map fun term => [.given term []])

def options (command : FilterCommand) : Filter.Target.Options :=
  { select := command.select.map fun columns => [.given columns []]
    access := command.user.map .user
    order := command.order
    limit := command.limit.map fun count => [.given count []] }

end FilterCommand

/-- How a subject is named where details are told. -/
def subjectName : Filter.Subject → String
  | .layer id => "Layer(" ++ Text.quoted id ++ ")"
  | .participants => "Participants"
  | .transcripts => "Transcripts"

/-- The statement of an expression about a subject. -/
def compileExpression (schema : Schema) (subject : Filter.Subject)
    (options : Filter.Target.Options) (text : String) : Session Select := do
  let select ← Session.accept do
    Filter.select schema subject options (← Expression.parse text)
  Session.debug "compiled AGQL condition"
    [("subject", (Filter.Target.resolve schema subject).value.describe)]
  return select

def FilterCommand.run (files : Files) (command : FilterCommand) : Session String := do
  let schema ← loadSchema files command.schema
  let subject ← command.subject
  Session.debug "compiling AGQL"
    [("subject", subjectName subject), ("expression", command.expression)]
  let select ← compileExpression schema subject command.options command.expression
  return showQuery command.format select.statement.query

/-! ### Searches -/

/-- One column of the rows that an expression selects. -/
def filterRows (schema : Schema) (subject : Filter.Subject) (column : Piece) (text : String) :
    Session Fragment := do
  let select ← compileExpression schema subject
    { select := some [column], order := .unordered } text
  return select.subquery

/-- What is said of a remark. -/
def remarkNotice : Search.Remark → Notice
  | .emptyNegation layer column =>
      .log .warn "negated match has no label condition"
        [("layer", layer), ("column", toString column)]
  | .idleAnchor layer column =>
      .log .warn "anchoring has no effect on word and segment layers"
        [("layer", layer), ("column", toString column)]

namespace SearchCommand

def options (schema : Schema) (command : SearchCommand) : Session Search.Options := do
  let transcripts ← command.transcripts.mapM
    (filterRows schema .transcripts (.column "transcript" "ag_id"))
  let participants ← command.participants.mapM
    (filterRows schema .participants (.column "speaker" "speaker_number"))
  return {
    searchId := command.searchId
    transcripts
    participants
    mainParticipantOnly := command.mainParticipantOnly
    minConfidence := command.minConfidence
    access := command.user.map .user }

/-- The layers that are said to be linked with words have to be there. -/
def checkLinked (schema : Schema) (command : SearchCommand) : Session Unit :=
  command.wordLinked.forM fun id =>
    if (schema.layer? id).isNone then
      Session.fail ("--word-linked names unknown layer " ++ id)
    else pure ()

def linked (command : SearchCommand) (id : String) : Bool :=
  command.wordLinked.contains id

/-- How a matrix is searched for. -/
def explanation (format : Format) (matrix : Search.Matrix) (strategy : Search.Strategy) :
    String :=
  match format with
  | .text => "matrix: " ++ matrix.describe ++ "\nstrategy: " ++ strategy.name ++ "\n"
  | .json =>
      Json.pretty ""
          (.object [("matrix", .text matrix.describe), ("strategy", .text strategy.name)]) ++ "\n"

def run (files : Files) (command : SearchCommand) : Session String := do
  let schema ← loadSchema files command.schema
  let matrix ← loadMatrix (files.afterReading command.schema) command.matrix
  let options ← command.options schema
  command.checkLinked schema
  (matrix.remarks schema).forM fun remark => Session.say (remarkNotice remark)
  let strategy ← Session.accept (matrix.strategy schema command.linked)
  if command.explain then
    Session.say (.log .info "planned search" [("strategy", strategy.name)])
    return explanation command.format matrix strategy
  else
    Session.debug "compiling search matrix"
      [("strategy", strategy.name), ("matrix", matrix.describe)]
    let select ← Session.accept (matrix.select schema command.linked options)
    return showQuery command.format select.statement.query

end SearchCommand

end CorpusQuery.CommandLine
