import CorpusQuery.CommandLine.Arguments
import CorpusQuery.Number.Integer
import CorpusQuery.Text.Fields

namespace CorpusQuery.CommandLine

/-! The commands, and how arguments ask for them. -/

inductive Format where
  | text
  | json
deriving DecidableEq, Repr

/-- Compiles an expression. -/
structure FilterCommand where
  schema : String
  layer : Option String
  participants : Bool
  transcripts : Bool
  select : Option String
  orderBy : List String
  unordered : Bool
  limit : Option String
  user : Option String
  format : Format
  expression : String
deriving DecidableEq, Repr

/-- Compiles a search matrix, or explains how it would be searched for. -/
structure SearchCommand where
  schema : String
  matrix : String
  searchId : Int64
  transcripts : Option String
  participants : Option String
  mainParticipantOnly : Bool
  minConfidence : Option Int64
  wordLinked : List String
  user : Option String
  explain : Bool
  format : Format
deriving DecidableEq, Repr

/-- The fields of a match identifier as they are given. -/
structure IdFields where
  graph : Int64
  uid : Option String
  anchors : Option String
  speaker : Option Int64
  target : Option String
  exportName : Option String
  slots : List String
deriving DecidableEq, Repr

inductive Command where
  | filter (command : FilterCommand)
  | search (command : SearchCommand)
  | decodeId (text : String) (format : Format)
  | encodeId (fields : IdFields)
  | checkSchema (path : String) (format : Format)
deriving DecidableEq, Repr

structure Invocation where
  /-- Says on the way what is being done. -/
  verbose : Bool
  command : Command
deriving DecidableEq, Repr

/-! ### Values of switches -/

def readInteger (argument value : String) : Except Stop Int64 :=
  match Number.read value.toList with
  | .ok number => .ok number
  | .error _ => refuse (.invalidValue argument value)

def readFormat (value : String) : Except Stop Format :=
  if value = "text" then .ok .text
  else if value = "json" then .ok .json
  else refuse (.invalidValue "--format" value)

/-- The name of a file, which is not empty. -/
def readPath (argument value : String) : Except Stop String :=
  if value = "" then refuse (.invalidValue argument value) else .ok value

namespace Taken

def integer? (taken : Taken) (name : String) : Except Stop (Option Int64) :=
  (taken.value? name).mapM (readInteger ("--" ++ name))

def format (taken : Taken) : Except Stop Format :=
  match taken.value? "format" with
  | some value => readFormat value
  | none => .ok .text

def path (taken : Taken) (name : String) : Except Stop String := do
  readPath ("--" ++ name) (← taken.required name)

/-- The values of a switch, each of them a list between commas. -/
def lists (taken : Taken) (name : String) : List String :=
  (taken.values name).flatMap fun value => (Text.fields ',' value.toList).map String.ofList

end Taken

/-! ### Commands -/

/-- The switches of every command. -/
def commonSwitches : List Switch :=
  [⟨"verbose", some 'v', .repeatedFlag⟩, ⟨"help", some 'h', .flag⟩]

def filterSwitches : List Switch :=
  commonSwitches ++
    [⟨"schema", some 's', .value⟩, ⟨"layer", some 'l', .value⟩, ⟨"participants", none, .flag⟩,
      ⟨"transcripts", none, .flag⟩, ⟨"select", none, .value⟩, ⟨"order-by", none, .values⟩,
      ⟨"unordered", none, .flag⟩, ⟨"limit", none, .value⟩, ⟨"user", none, .value⟩,
      ⟨"format", none, .value⟩]

def searchSwitches : List Switch :=
  commonSwitches ++
    [⟨"schema", some 's', .value⟩, ⟨"matrix", some 'm', .value⟩, ⟨"search-id", none, .value⟩,
      ⟨"transcripts", none, .value⟩, ⟨"participants", none, .value⟩,
      ⟨"main-participant-only", none, .flag⟩, ⟨"min-confidence", none, .value⟩,
      ⟨"word-linked", none, .values⟩, ⟨"user", none, .value⟩, ⟨"explain", none, .flag⟩,
      ⟨"format", none, .value⟩]

def formatSwitches : List Switch :=
  commonSwitches ++ [⟨"format", none, .value⟩]

def encodeSwitches : List Switch :=
  commonSwitches ++
    [⟨"graph", none, .value⟩, ⟨"annotation", none, .value⟩, ⟨"anchors", none, .value⟩,
      ⟨"speaker", none, .value⟩, ⟨"target", none, .value⟩, ⟨"prefix", none, .value⟩,
      ⟨"slot", none, .values⟩]

def readFilter (taken : Taken) : Except Stop Command := do
  taken.exclude "layer" "participants"
  taken.exclude "layer" "transcripts"
  taken.exclude "participants" "transcripts"
  taken.exclude "unordered" "order-by"
  return .filter
    { schema := ← taken.path "schema"
      layer := taken.value? "layer"
      participants := taken.hasSwitch "participants"
      transcripts := taken.hasSwitch "transcripts"
      select := taken.value? "select"
      orderBy := taken.values "order-by"
      unordered := taken.hasSwitch "unordered"
      limit := taken.value? "limit"
      user := taken.value? "user"
      format := ← taken.format
      expression := ← taken.soleArgument "expression" }

def readSearch (taken : Taken) : Except Stop Command := do
  taken.noArgument
  return .search
    { schema := ← taken.path "schema"
      matrix := ← taken.path "matrix"
      searchId := (← taken.integer? "search-id").getD 0
      transcripts := taken.value? "transcripts"
      participants := taken.value? "participants"
      mainParticipantOnly := taken.hasSwitch "main-participant-only"
      minConfidence := ← taken.integer? "min-confidence"
      wordLinked := taken.lists "word-linked"
      user := taken.value? "user"
      explain := taken.hasSwitch "explain"
      format := ← taken.format }

def readDecode (taken : Taken) : Except Stop Command := do
  return .decodeId (← taken.soleArgument "identifier") (← taken.format)

def readEncode (taken : Taken) : Except Stop Command := do
  taken.noArgument
  taken.exclude "annotation" "anchors"
  return .encodeId
    { graph := ← readInteger "--graph" (← taken.required "graph")
      uid := taken.value? "annotation"
      anchors := taken.value? "anchors"
      speaker := ← taken.integer? "speaker"
      target := taken.value? "target"
      exportName := taken.value? "prefix"
      slots := taken.values "slot" }

def readCheck (taken : Taken) : Except Stop Command := do
  return .checkSchema (← readPath "schema" (← taken.soleArgument "schema")) (← taken.format)

/-! ### Names of commands -/

/-- What follows the name of a command. -/
inductive Menu where
  | command (switches : List Switch) (read : Taken → Except Stop Command)
  | choice (names : List (String × Menu))

def menu : Menu :=
  .choice
    [("agql", .command filterSwitches readFilter),
      ("search", .command searchSwitches readSearch),
      ("id",
        .choice
          [("decode", .command formatSwitches readDecode),
            ("encode", .command encodeSwitches readEncode)]),
      ("schema", .choice [("check", .command formatSwitches readCheck)])]

/-- The command that arguments ask for at a menu, where `taken` are the switches
before its name. -/
def readMenu (taken : Taken) : Menu → List String → Except Stop Invocation
  | .command switches read, arguments => do
      let given ← Taken.all switches arguments
      return { verbose := taken.hasSwitch "verbose" || given.hasSwitch "verbose"
               command := ← read given }
  | .choice _, [] => refuse .missingCommand
  | .choice names, argument :: rest =>
      if taken.ended then refuse (.unexpected argument)
      else if looksLikeSwitch argument.toList then do
        readMenu (← taken.next commonSwitches argument) (.choice names) rest
      else if argument = "help" then .error .usage
      else
        match names.lookup argument with
        | some menu => readMenu taken menu rest
        | none => refuse (.unknownCommand argument)
termination_by _ arguments => arguments.length

/-- The command that arguments ask for. -/
def Invocation.read (arguments : List String) : Except Stop Invocation :=
  readMenu {} menu arguments

end CorpusQuery.CommandLine
