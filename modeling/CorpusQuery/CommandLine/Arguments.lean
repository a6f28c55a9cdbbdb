namespace CorpusQuery.CommandLine

/-! Command line arguments: switches with or without a value, and the other
arguments in their order.

A switch is written `--name value`, `--name=value`, `-n value`, `-nvalue` or
`-n=value`, and switches without a value can share a dash.  Nothing after `--` is a
switch. -/

/-- How often a switch can be given, and whether a value belongs to it. -/
inductive Arity where
  | flag
  /-- A flag that can be given more than once. -/
  | repeatedFlag
  | value
  /-- A value each time the switch is given. -/
  | values
deriving DecidableEq, Repr

structure Switch where
  name : String
  letter : Option Char := none
  arity : Arity := .value
deriving DecidableEq, Repr

def Switch.takesValue (switch : Switch) : Bool :=
  switch.arity == .value || switch.arity == .values

def Switch.canRepeat (switch : Switch) : Bool :=
  switch.arity == .repeatedFlag || switch.arity == .values

/-- Why arguments are no command. -/
inductive Misuse where
  | unknownSwitch (text : String)
  | missingValue (switch : String)
  | uncalledValue (switch : String)
  | repeated (switch : String)
  | conflict (left right : String)
  | missing (argument : String)
  | unexpected (argument : String)
  | invalidValue (argument value : String)
  | unknownCommand (text : String)
  | missingCommand
deriving DecidableEq, Repr

namespace Misuse

def message : Misuse → String
  | .unknownSwitch text => "unknown option " ++ text
  | .missingValue switch => "option --" ++ switch ++ " needs a value"
  | .uncalledValue switch => "option --" ++ switch ++ " takes no value"
  | .repeated switch => "option --" ++ switch ++ " is given more than once"
  | .conflict left right => "option --" ++ left ++ " cannot be used with --" ++ right
  | .missing argument => "missing " ++ argument
  | .unexpected argument => "unexpected argument " ++ argument
  | .invalidValue argument value => "invalid value for " ++ argument ++ ": " ++ value
  | .unknownCommand text => "unknown command " ++ text
  | .missingCommand => "missing command"

end Misuse

/-- Why there is no command to run. -/
inductive Stop where
  /-- Only the usage is asked for. -/
  | usage
  | misuse (fault : Misuse)
deriving DecidableEq, Repr

def refuse (fault : Misuse) : Except Stop α :=
  .error (.misuse fault)

/-! ### Taking arguments one by one -/

/-- Whether an argument starts like a switch.  A dash alone is a value. -/
def looksLikeSwitch (argument : List Char) : Bool :=
  match argument with
  | '-' :: _ :: _ => true
  | _ => false

/-- The arguments taken so far. -/
structure Taken where
  /-- The switch whose value is to follow. -/
  waiting : Option Switch := none
  /-- No switches follow. -/
  ended : Bool := false
  /-- The switches with their values; flags have an empty one. -/
  switches : List (String × String) := []
  others : List String := []
deriving DecidableEq, Repr

namespace Taken

def hasSwitch (taken : Taken) (name : String) : Bool :=
  taken.switches.any (·.1 == name)

/-- Adds a switch and its value.  To ask for help ends everything. -/
def add (taken : Taken) (switch : Switch) (value : String) : Except Stop Taken :=
  if switch.name = "help" then .error .usage
  else if taken.hasSwitch switch.name && !switch.canRepeat then refuse (.repeated switch.name)
  else .ok { taken with waiting := none, switches := taken.switches ++ [(switch.name, value)] }

/-- Takes what stands between `--` and the end of the argument. -/
def long (switches : List Switch) (taken : Taken) (body : List Char) : Except Stop Taken :=
  let name := body.takeWhile (· != '=')
  let attached := (body.dropWhile (· != '=')).tail?
  match switches.find? (·.name.toList == name) with
  | none => refuse (.unknownSwitch ("--" ++ String.ofList name))
  | some switch =>
      match switch.takesValue, attached with
      | true, some value => taken.add switch (String.ofList value)
      | true, none => .ok { taken with waiting := some switch }
      | false, some _ => refuse (.uncalledValue switch.name)
      | false, none => taken.add switch ""

/-- Takes the letters after a single dash. -/
def short (switches : List Switch) (taken : Taken) : List Char → Except Stop Taken
  | [] => .ok taken
  | letter :: rest =>
      match switches.find? (·.letter == some letter) with
      | none => refuse (.unknownSwitch ("-" ++ String.ofList [letter]))
      | some switch =>
          match switch.takesValue, rest with
          | false, rest => do short switches (← taken.add switch "") rest
          | true, [] => .ok { taken with waiting := some switch }
          | true, '=' :: value => taken.add switch (String.ofList value)
          | true, value => taken.add switch (String.ofList value)

def next (switches : List Switch) (taken : Taken) (argument : String) : Except Stop Taken :=
  let chars := argument.toList
  if taken.ended then .ok { taken with others := taken.others ++ [argument] }
  else
    match taken.waiting with
    | some switch =>
        if looksLikeSwitch chars then refuse (.missingValue switch.name)
        else taken.add switch argument
    | none =>
        match chars with
        | ['-', '-'] => .ok { taken with ended := true }
        | '-' :: '-' :: body => taken.long switches body
        | '-' :: letter :: letters => taken.short switches (letter :: letters)
        | _ => .ok { taken with others := taken.others ++ [argument] }

/-- All arguments, in order. -/
def all (switches : List Switch) (arguments : List String) : Except Stop Taken := do
  let taken ← arguments.foldlM (next switches) {}
  match taken.waiting with
  | some switch => refuse (.missingValue switch.name)
  | none => return taken

/-! ### Looking up what was taken -/

def values (taken : Taken) (name : String) : List String :=
  (taken.switches.filter (·.1 == name)).map (·.2)

def value? (taken : Taken) (name : String) : Option String :=
  (taken.values name).head?

def required (taken : Taken) (name : String) : Except Stop String :=
  match taken.value? name with
  | some value => .ok value
  | none => refuse (.missing ("--" ++ name))

/-- Two switches that cannot be used together. -/
def exclude (taken : Taken) (left right : String) : Except Stop Unit :=
  if taken.hasSwitch left && taken.hasSwitch right then refuse (.conflict left right)
  else .ok ()

/-- The only other argument. -/
def soleArgument (taken : Taken) (name : String) : Except Stop String :=
  match taken.others with
  | [] => refuse (.missing name)
  | [argument] => .ok argument
  | _ :: second :: _ => refuse (.unexpected second)

def noArgument (taken : Taken) : Except Stop Unit :=
  match taken.others with
  | [] => .ok ()
  | first :: _ => refuse (.unexpected first)

end Taken

end CorpusQuery.CommandLine
