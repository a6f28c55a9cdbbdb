import CorpusQuery.Problem
import CorpusQuery.Text.Fields

namespace CorpusQuery.CommandLine

/-! Commands at work: what they read, what they say on the way, and how they
end. -/

/-! ### Files -/

/-- Why a text cannot be read. -/
inductive FileFault where
  | missing
  | denied
  /-- Something that is no directory is taken for one. -/
  | notDirectory
  | isDirectory
  | encoding
  | other (description : String)
deriving DecidableEq, Repr

namespace FileFault

/-- What the system says of the fault, with the number it has there. -/
def message : FileFault → String
  | .missing => "No such file or directory (os error 2)"
  | .denied => "Permission denied (os error 13)"
  | .notDirectory => "Not a directory (os error 20)"
  | .isDirectory => "Is a directory (os error 21)"
  | .encoding => "stream did not contain valid UTF-8"
  | .other description => description

end FileFault

/-- The texts that a command can read. -/
structure Files where
  named : String → Except FileFault String
  standardInput : Except FileFault String

namespace Files

/-- The text of a path in a directory with some files and nothing else.  Dots and
empty steps of a path stay where they are. -/
def find (texts : List (String × String)) (path : String) : Except FileFault String :=
  let stays (step : String) : Bool := step == "" || step == "."
  let steps := (Text.fields '/' path.toList).map String.ofList
  if path.startsWith "/" then .error .missing
  else
    match steps.filter (!stays ·) with
    | [] => .error .isDirectory
    | name :: further =>
        match texts.lookup name with
        | none => .error .missing
        | some text =>
            if further.isEmpty && !(steps.getLast?.any stays) then .ok text
            else .error .notDirectory

def ofTexts (texts : List (String × String)) (input : String) : Files :=
  { named := find texts, standardInput := .ok input }

end Files

/-! ### Notices -/

inductive Level where
  | warn
  | info
  | debug
deriving DecidableEq, Repr

def Level.name : Level → String
  | .warn => "WARN"
  | .info => "INFO"
  | .debug => "DEBUG"

/-- What is said beside the result. -/
inductive Notice where
  | log (level : Level) (event : String) (fields : List (String × String))
  | error (text : String)
  | warning (text : String)
deriving DecidableEq, Repr

namespace Notice

/-- Whether the notice is made: details only if they are asked for. -/
def isShown (verbose : Bool) : Notice → Bool
  | .log .info _ _ | .log .debug _ _ => verbose
  | _ => true

def text : Notice → String
  | .log level event fields =>
      String.intercalate " "
        (level.name :: event :: fields.map fun (name, value) => name ++ "=" ++ value)
  | .error text => "error: " ++ text
  | .warning text => "warning: " ++ text

end Notice

/-! ### Commands -/

/-- Why a command has no result. -/
structure Failure where
  message : String
  cause : Option String := none
deriving DecidableEq, Repr

/-- A text with every line after the first indented as well. -/
def indented (text : String) : String :=
  "    " ++ text.replace "\n" "\n    "

def Failure.text (failure : Failure) : String :=
  "Error: " ++ failure.message ++
    match failure.cause with
    | some cause => "\n\nCaused by:\n" ++ indented cause
    | none => ""

/-- A command at work. -/
abbrev Session (α : Type) := ExceptT Failure (StateM (List Notice)) α

namespace Session

def say (notice : Notice) : Session Unit :=
  modify (· ++ [notice])

def debug (event : String) (fields : List (String × String)) : Session Unit :=
  say (.log .debug event fields)

def fail (message : String) : Session α :=
  throw { message }

/-- A value, or a failure that its fault is the cause of. -/
def attempt (message : String) (describe : ε → String) : Except ε α → Session α
  | .ok value => pure value
  | .error fault => throw { message, cause := some (describe fault) }

/-- The value of a query, or a failure after all that is wrong with it. -/
def accept (result : Except QueryError α) : Session α :=
  match result with
  | .ok value => pure value
  | .error (.invalid problems) => do
      problems.forM fun problem => say (.error problem.message)
      fail ("query rejected with " ++ toString problems.length ++ " problem(s)")
  | .error error => do
      say (.error error.message)
      fail "query rejected"

end Session

/-! ### Outcomes -/

/-- How a program ends. -/
structure Outcome where
  exitCode : Nat
  output : String := ""
  /-- The lines beside the output. -/
  errors : List String := []
deriving DecidableEq, Repr

def linesOf (text : String) : List String :=
  text.splitOn "\n"

/-- Runs a command to its end. -/
def Session.outcome (verbose : Bool) (session : Session String) : Outcome :=
  let (result, notices) := session.run.run []
  let said := (notices.filter (Notice.isShown verbose)).flatMap (linesOf ·.text)
  match result with
  | .ok output => { exitCode := 0, output, errors := said }
  | .error failure => { exitCode := 1, errors := said ++ linesOf failure.text }

end CorpusQuery.CommandLine
