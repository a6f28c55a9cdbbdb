import CorpusQuery.CommandLine.Run

open CorpusQuery.CommandLine

/-! The program: it reads the files that the arguments name, and prints the outcome. -/

def decodeBytes (bytes : ByteArray) : Except FileFault String :=
  match String.fromUTF8? bytes with
  | some text => .ok text
  | none => .error .encoding

def faultOf (error : IO.Error) : FileFault :=
  match error with
  | .noFileOrDirectory .. => .missing
  | .permissionDenied .. => .denied
  | .inappropriateType _ code _ => if code = 21 then .isDirectory else .notDirectory
  | other => .other (toString other)

def readNamed (path : String) : IO (Except FileFault String) := do
  try
    return decodeBytes (← IO.FS.readBinFile path)
  catch error => return .error (faultOf error)

partial def readAll (input : IO.FS.Stream) (bytes : ByteArray) : IO ByteArray := do
  let more ← input.read 65536
  if more.isEmpty then return bytes
  readAll input (bytes ++ more)

def main (arguments : List String) : IO UInt32 := do
  let mut texts : List (String × Except FileFault String) := []
  let mut input : Except FileFault String := .ok ""
  for path in (pathsNamed arguments).eraseDups do
    if Files.isStandardInput path then
      input := decodeBytes (← readAll (← IO.getStdin) .empty)
    else
      texts := (path, ← readNamed path) :: texts
  let known := texts
  let files : Files :=
    { named := fun path => (known.lookup path).getD (.error .missing)
      standardInput := input }
  let outcome := run files arguments
  IO.print outcome.output
  for line in outcome.errors do
    IO.eprintln line
  return outcome.exitCode.toUInt32
