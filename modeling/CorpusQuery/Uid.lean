import CorpusQuery.Schema.Storage
import CorpusQuery.Text.Fields

namespace CorpusQuery

/-! Uids of single annotations: the stem of the layer's storage and the number of
the annotation, as in `ew_2_456`, `e_30_7` or `t|language|17`. -/

inductive Uid where
  | temporal (scope : Scope) (table number : Int64)
  | attributed (owner : Owner) (name : String) (number : Int64)
deriving DecidableEq, Repr

namespace Uid

/-- The number of the annotation. -/
def number : Uid → Int64
  | .temporal _ _ number => number
  | .attributed _ _ number => number

def text : Uid → String
  | .temporal scope table number => Storage.temporalStem scope table ++ Number.text number
  | .attributed owner name number => Storage.attributeStem owner name ++ Number.text number

/-- The uid of the annotation with this number, unless the rows stored are no
annotations. -/
def of? (storage : Storage) (number : Int64) : Option Uid :=
  match storage with
  | .temporal scope table => some (.temporal scope table number)
  | .attributed owner name => some (.attributed owner name number)
  | .entity _ => none

/-- Whether the annotation is stored there. -/
def belongsTo : Uid → Storage → Bool
  | .temporal scope table _, .temporal otherScope otherTable =>
      scope == otherScope && table == otherTable
  | .attributed owner name _, .attributed otherOwner otherName =>
      owner == otherOwner && name == otherName
  | _, _ => false

/-- The table, a number that may be negative, and after an underscore the number of
the annotation. -/
def readNumbers (scope : Scope) (chars : List Char) : Option Uid := do
  let (table, number) ← Text.cut '_' chars
  return .temporal scope (← Number.signed? table) (← Number.unsigned? number)

/-- The name, which may have bars but no line feed, and after the last bar the
number of the annotation. -/
def readNamed (owner : Owner) (chars : List Char) : Option Uid := do
  let (name, number) ← Text.cutLast '|' chars
  if name = [] ∨ '\n' ∈ name then none
  else return .attributed owner (String.ofList name) (← Number.unsigned? number)

/-- The uid that a text is. -/
def read? (text : String) : Option Uid :=
  match text.toList with
  | 'e' :: '_' :: rest => readNumbers .span rest
  | 'e' :: 'm' :: '_' :: rest => readNumbers .phrase rest
  | 'e' :: 'w' :: '_' :: rest => readNumbers .word rest
  | 'e' :: 's' :: '_' :: rest => readNumbers .segment rest
  | 't' :: '|' :: rest => readNamed .transcript rest
  | 'p' :: '|' :: rest => readNamed .participant rest
  | _ => none

end Uid

end CorpusQuery
