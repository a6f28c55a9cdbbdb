import CorpusQuery.CommandLine.Identifiers
import CorpusQuery.CommandLine.Queries
import CorpusQuery.CommandLine.Survey

namespace CorpusQuery.CommandLine

/-! The program, from its arguments to its outcome. -/

def Command.run (files : Files) : Command → Session String
  | .filter command => command.run files
  | .search command => command.run files
  | .decodeId text format => takeApart text format
  | .encodeId fields => putTogether fields
  | .checkSchema path format => survey files path format

/-- The files that a command reads. -/
def Command.paths : Command → List String
  | .filter command => [command.schema]
  | .search command => [command.schema, command.matrix]
  | .decodeId .. | .encodeId _ => []
  | .checkSchema path _ => [path]

/-- The files that are read for arguments. -/
def pathsNamed (arguments : List String) : List String :=
  match Invocation.read arguments with
  | .ok invocation => invocation.command.paths
  | .error _ => []

def usage : List String :=
  ["Usage:",
    "  agql -s SCHEMA (-l LAYER | --participants | --transcripts) [--select COLUMNS]",
    "    [--order-by TERM]... [--unordered] [--limit N] [--user USER] [--format text|json]",
    "    EXPRESSION",
    "  search -s SCHEMA -m MATRIX [--search-id N] [--transcripts EXPRESSION]",
    "    [--participants EXPRESSION] [--main-participant-only] [--min-confidence N]",
    "    [--word-linked LAYER,LAYER]... [--user USER] [--explain] [--format text|json]",
    "  id decode ID [--format text|json]",
    "  id encode --graph N [--annotation UID | --anchors START-END] [--speaker N]",
    "    [--target UID] [--prefix NAME] [--slot NAME=UID]...",
    "  schema check SCHEMA [--format text|json]",
    "",
    "A file named - is the standard input; -v tells what is being done."]

/-- Arguments that are no command end with 2, commands that fail with 1. -/
def run (files : Files) (arguments : List String) : Outcome :=
  match Invocation.read arguments with
  | .error .usage => { exitCode := 0, output := String.join (usage.map (· ++ "\n")) }
  | .error (.misuse fault) => { exitCode := 2, errors := ("error: " ++ fault.message) :: usage }
  | .ok invocation => (invocation.command.run files).outcome invocation.verbose

end CorpusQuery.CommandLine
