import CorpusQuery.CommandLine.Session
import CorpusQuery.Json.Reader
import CorpusQuery.Schema.Stored
import CorpusQuery.Search.Stored

namespace CorpusQuery.CommandLine

/-! Schemas and matrices from files. -/

namespace Files

/-- A dash stands for the standard input. -/
def isStandardInput (path : String) : Bool :=
  path == "-"

def read (files : Files) (path : String) : Session String :=
  if isStandardInput path then
    Session.attempt "failed to read standard input" FileFault.message files.standardInput
  else Session.attempt ("failed to read " ++ path) FileFault.message (files.named path)

/-- What is left to read: nothing is left of the standard input once it was read. -/
def afterReading (files : Files) (path : String) : Files :=
  if isStandardInput path then { files with standardInput := .ok "" } else files

end Files

/-- The schema that a text stands for, or what is wrong with the text.  What follows
the schema is looked at last. -/
def schemaOfText (text : String) : Except String Schema := do
  let (json, rest) ← (Json.parseStart text).mapError Json.Fault.message
  let schema ← (Schema.load json).mapError Schema.LoadError.message
  (Json.finished rest).mapError Json.Fault.message
  return schema

def matrixOfText (text : String) : Except String Search.Matrix :=
  match Json.parse text with
  | .error fault => .error fault.message
  | .ok json => (Search.Matrix.ofJson json).mapError Json.ShapeError.message

def loadSchema (files : Files) (path : String) : Session Schema := do
  let schema ← Session.attempt (path ++ " is not a valid layer schema") id
    (schemaOfText (← files.read path))
  Session.debug "loaded schema" [("layers", toString schema.entries.length), ("path", path)]
  return schema

def loadMatrix (files : Files) (path : String) : Session Search.Matrix := do
  let matrix ← Session.attempt (path ++ " is not a valid search matrix") id
    (matrixOfText (← files.read path))
  Session.debug "loaded matrix"
    [("columns", toString matrix.columns.length), ("matrix", matrix.describe)]
  return matrix

end CorpusQuery.CommandLine
