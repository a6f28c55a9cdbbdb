import CorpusQuery.Expression.Printer
import CorpusQuery.Filter.Reference
import CorpusQuery.Uid

namespace CorpusQuery.Filter

/-! Expressions as conditions on the subject's row. -/

open Sql

/-- A condition in its boolean structure. -/
inductive Condition where
  | leaf (fragment : Fragment)
  | all (parts : List Condition)
  | any (parts : List Condition)
  | negation (part : Condition)

namespace Condition

mutual

/-- `AND` binds more tightly than `OR`, so only disjunctions and what is negated
need parentheses. -/
def fragment : Condition → Fragment
  | .leaf fragment => fragment
  | .all parts => Fragment.conjunction (fragments parts)
  | .any parts => Fragment.parenthesized (Fragment.disjunction (fragments parts))
  | .negation part => .not :: Fragment.parenthesized (fragment part)

def fragments : List Condition → List Fragment
  | [] => []
  | part :: parts => fragment part :: fragments parts

end

end Condition

namespace Scene

/-! ### Operands -/

/-- The single value of an operand that is to be compared. -/
def single (operand : Operand) : Value → Noted Fragment
  | .scalar fragment => pure fragment
  | _ =>
      .problem (.notApplicable ("list value " ++ operand.display) "a scalar comparison") nothing

/-- An attribute of all rows of a layer that belong to the subject's row. -/
def listing (scene : Scene) (function layer : String) (attr : Attribute) : Noted Value := do
  match ← scene.refer layer with
  | .none => return .literals []
  | .subject => return .literals [← scene.ownAttribute attr]
  | .other entry related =>
      match scene.relatedColumn? entry.layer entry.storage attr with
      | some column => return .rows related column
      | none =>
          return .scalar (← scene.notApplicable (function ++ "(" ++ entry.layer.id ++ ")") nothing)

def firstValue (scene : Scene) (layer : String) (attr : Attribute) : Noted Value := do
  match ← scene.refer layer with
  | .none => return .scalar nothing
  | .subject => return .scalar (← scene.ownAttribute attr)
  | .other entry related =>
      match scene.relatedColumn? entry.layer entry.storage attr with
      | some column => return .scalar (related.first column)
      | none =>
          return .scalar
            (← scene.notApplicable ("first(" ++ entry.layer.id ++ ")." ++ attr.name) nothing)

/-- Those who made the annotations; entities have none. -/
def annotators (scene : Scene) (layer : String) : Noted Value := do
  match ← scene.refer layer with
  | .none => return .literals []
  | .subject =>
      match scene.target with
      | .participants .. | .transcripts =>
          return .scalar (← scene.notApplicable "annotators" nothing)
      | _ => return .literals [[.column "annotation" "annotated_by"]]
  | .other entry related =>
      match entry.storage with
      | .entity _ =>
          return .scalar (← scene.notApplicable ("annotators(" ++ entry.layer.id ++ ")") nothing)
      | _ => return .rows related [.column "related" "annotated_by"]

mutual

def value (scene : Scene) : Operand → Noted Value
  | .text text => pure (.scalar [.bound (.text text)])
  | .integer number => pure (.scalar [.bound (.integer number)])
  | .number number => pure (.scalar [.bound (.number number)])
  | .null => pure (.scalar nothing)
  | .list items => do return .literals (← scalars scene items)
  | .own attr => do return .scalar (← scene.ownAttribute attr)
  | .first layer attr => scene.firstValue layer attr
  | .labels layer => scene.listing "labels" layer .label
  | .all layer => scene.listing "all" layer .id
  | .annotators layer => scene.annotators layer
  | .length inner => do return .scalar (size (← value scene inner))
  | .coalesce items => do
      return .scalar (apply "COALESCE" (Fragment.commaList (← scalars scene items)))

def scalars (scene : Scene) : List Operand → Noted (List Fragment)
  | [] => pure []
  | item :: items => do
      let first ← single item (← value scene item)
      return first :: (← scalars scene items)

end

def scalar (scene : Scene) (operand : Operand) : Noted Fragment := do
  single operand (← scene.value operand)

/-! ### Predicates -/

/-- The uids of a list that are not of the subject's layer. -/
def strangers (storage : Storage) (uids : List String) : List String :=
  uids.filter fun uid => !(Uid.read? uid).any (·.belongsTo storage)

/-- The numbers of the uids that are of the subject's layer. -/
def numbersOf (storage : Storage) (uids : List String) : List Int64 :=
  uids.filterMap fun uid => ((Uid.read? uid).filter (·.belongsTo storage)).map Uid.number

def numberList (numbers : List Int64) : Fragment :=
  Fragment.commaList (numbers.map fun number => [.words (Number.text number)])

/-- The row is one of the annotations with these uids.  No uid that is not of the
subject's layer goes unnoticed. -/
def isOneOf (storage : Storage) (layer : String) (uids : List String) (negated : Bool) :
    Noted Fragment :=
  let fragment : Fragment :=
    match numbersOf storage uids with
    | [] => [.words (if negated then "TRUE" else "FALSE")]
    | [number] =>
        [.column "annotation" "annotation_id", .words (if negated then " <> " else " = "),
          .words (Number.text number)]
    | numbers =>
        [.column "annotation" "annotation_id", .words (if negated then " NOT IN " else " IN ")] ++
          Fragment.parenthesized (numberList numbers)
  { value := fragment
    problems := (strangers storage uids).map (.invalidId layer) }

/-- The subject's layer is the one named. -/
def isOfLayer (scene : Scene) (id : String) (negated : Bool) : Noted Fragment := do
  if (scene.schema.layer? id).isNone then Noted.problem (.unknownLayer id) ()
  match scene.target.layerId? with
  | none => scene.notApplicable Attribute.layerId.name nothing
  | some subject =>
      return [.marker subject, .words (if negated then " <> " else " = "), .marker id]

/-- The parent of the row is the annotation with this uid, which must be of the
parent layer. -/
def isChildOf (scene : Scene) (subject : String) (uid : String) (negated : Bool) :
    Noted Fragment :=
  let parent := (scene.schema.parent? subject).map Layer.id
  let known := (Uid.read? uid).filter fun read =>
    (parent.bind scene.schema.storage?).any read.belongsTo
  match known with
  | some read =>
      pure [.column "annotation" "parent_id", .words (if negated then " <> " else " = "),
        .words (Number.text read.number)]
  | none => .problem (.invalidId (parent.getD subject) uid) nothing

/-- The attribute and the text of a comparison between such. -/
def attributeAndText? : Operand → Operand → Option (Attribute × String)
  | .own attr, .text text => some (attr, text)
  | .text text, .own attr => some (attr, text)
  | _, _ => none

/-- The operand that is compared with null. -/
def besideNull? : Operand → Operand → Option Operand
  | left, .null => some left
  | .null, right => some right
  | _, _ => none

def operator : Comparison → String
  | .eq => " = "
  | .strictEq => " = BINARY "
  | .ne => " <> "
  | .strictNe => " <> BINARY "
  | .lt => " < "
  | .le => " <= "
  | .gt => " > "
  | .ge => " >= "

def plainCompare (scene : Scene) (left : Operand) (op : Comparison) (right : Operand) :
    Noted Fragment := do
  let left ← scene.scalar left
  let right ← scene.scalar right
  return left ++ .words (operator op) :: right

def nullTest (scene : Scene) (operand : Operand) (negated : Bool) : Noted Fragment := do
  return (← scene.scalar operand) ++ [.words (if negated then " IS NOT NULL" else " IS NULL")]

/-- Equations of ids with texts are settled by what the text says; equations with
null are tests for null. -/
def compare (scene : Scene) (left : Operand) (op : Comparison) (right : Operand) :
    Noted Fragment :=
  if op.isEquality then
    let other :=
      match besideNull? left right with
      | some operand => scene.nullTest operand op.isNegated
      | none => scene.plainCompare left op right
    match attributeAndText? left right, scene.target with
    | some (.layerId, id), _ => scene.isOfLayer id op.isNegated
    | some (.id, uid), .intervals layer scope table =>
        isOneOf (.temporal scope table) layer.id [uid] op.isNegated
    | some (.id, uid), .attributed layer owner name =>
        isOneOf (.attributed owner name) layer.id [uid] op.isNegated
    | some (.parentId, uid), .intervals layer _ _ => scene.isChildOf layer.id uid op.isNegated
    | _, _ => other
  else scene.plainCompare left op right

def test (scene : Scene) (pattern : String) (operand : Operand) (negated : Bool) :
    Noted Fragment := do
  return matching pattern negated (← scene.value operand)

def asText? : Operand → Option String
  | .text text => some text
  | _ => none

/-- The texts of a list that has nothing else, sought after by id. -/
def idList? : Operand → Operand → Option (List String)
  | .list items, .own .id => items.mapM asText?
  | _, _ => none

def plainIncludes (scene : Scene) (list item : Operand) : Noted Fragment := do
  let list ← scene.value list
  let item ← scene.scalar item
  match list with
  | .scalar text =>
      return apply "INSTR" (text ++ .words ", " :: item) ++ [.words " > 0"]
  | list => return membership item list

/-- An item is in a list, or a text has it in it. -/
def includes (scene : Scene) (list item : Operand) : Noted Fragment :=
  match idList? list item, scene.target.storage? with
  | some uids, some storage =>
      isOneOf storage (scene.target.layerId?.getD "") uids false
  | _, _ => scene.plainIncludes list item

def includesAny (scene : Scene) (list items : Operand) : Noted Fragment := do
  let list ← scene.value list
  let items ← scene.value items
  return commonMember list items

/-! ### Expressions -/

mutual

/-- The condition an expression puts on the subject's row. -/
def condition (scene : Scene) : Expression → Noted Condition
  | .or items => do return .any (← conditions scene items)
  | .and items => do return .all (← conditions scene items)
  | .not (.test pattern operand) => do return .leaf (← scene.test pattern operand true)
  | .not inner => do return .negation (← condition scene inner)
  | .compare left op right => do return .leaf (← scene.compare left op right)
  | .test pattern operand => do return .leaf (← scene.test pattern operand false)
  | .includes list item => do return .leaf (← scene.includes list item)
  | .includesAny list items => do return .leaf (← scene.includesAny list items)

def conditions (scene : Scene) : List Expression → Noted (List Condition)
  | [] => pure []
  | item :: items => do
      let first ← condition scene item
      return first :: (← conditions scene items)

end

end Scene

/-- Everything that an expression and its subject give for the statement. -/
def examine (schema : Schema) (subject : Subject) (expression : Expression) :
    Noted (Target × Fragment) := do
  let target ← Target.resolve schema subject
  let condition ← Scene.condition ⟨schema, target⟩ expression
  return (target, condition.fragment)

/-- The statement that selects the subject's rows that meet the expression, or all
problems of both. -/
def select (schema : Schema) (subject : Subject) (options : Target.Options)
    (expression : Expression) : Except QueryError Select :=
  let found := examine schema subject expression
  let (target, condition) := found.value
  acceptWithout found.problems
    (target.select schema options { found with value := condition })

end CorpusQuery.Filter
