import CorpusQuery.Number.Binary64
import CorpusQuery.Number.Integer

namespace CorpusQuery

/-! JSON values, and the readings of a value that a record with fixed fields
needs. -/

/-- A JSON value.  Numbers written without point and exponent that 64 bits hold,
signed or unsigned, are integers; all others are fractions.  The fields of an
object keep their order. -/
inductive Json where
  | null
  | bool (value : Bool)
  | integer (value : Int)
  | fraction (value : Number.Binary64)
  | text (value : String)
  | list (items : List Json)
  | object (fields : List (String × Json))
  /-- A text with half of a surrogate pair in it, a number out of range, or an object
  with such a text among its names.  It is well formed, and no fault where nothing is
  asked of it, but no reading has a value for it. -/
  | unusable

namespace Json

instance : Inhabited Json := ⟨.null⟩

/-- The value of a field, if there is one of that name. -/
def field? (json : Json) (name : String) : Option Json :=
  match json with
  | .object fields => (fields.find? fun pair => pair.1 == name).map (·.2)
  | _ => none

/-- What is wrong with the shape of a value. -/
inductive ShapeError where
  | missing (field : String)
  | unexpected (wanted : String)
  | unreadable (field : String)
deriving DecidableEq, Repr

namespace ShapeError

def message : ShapeError → String
  | .missing field => "missing field " ++ field
  | .unexpected wanted => "expected " ++ wanted
  | .unreadable field => "cannot read field " ++ field

end ShapeError

abbrev Reading (α : Type) := Except ShapeError α

def asText : Json → Reading String
  | .text value => .ok value
  | _ => .error (.unexpected "a string")

def asBool : Json → Reading Bool
  | .bool value => .ok value
  | _ => .error (.unexpected "true or false")

def asList : Json → Reading (List Json)
  | .list items => .ok items
  | _ => .error (.unexpected "a list")

def asObject : Json → Reading (List (String × Json))
  | .object fields => .ok fields
  | _ => .error (.unexpected "an object")

/-- An integer of 64 bits; a number with a point is none. -/
def asInt64 : Json → Reading Int64
  | .integer value =>
      match Number.int64? value with
      | some word => .ok word
      | none => .error (.unexpected "an integer of 64 bits")
  | _ => .error (.unexpected "an integer of 64 bits")

/-- A count that 32 bits hold. -/
def asCount32 : Json → Reading Nat
  | .integer value =>
      if 0 ≤ value ∧ value ≤ 4294967295 then .ok value.toNat
      else .error (.unexpected "a count of 32 bits")
  | _ => .error (.unexpected "a count of 32 bits")

/-- One of some names, given as a text or as the only field of an object, whose
value is then null. -/
def asChoice (choices : List (String × α)) (json : Json) : Reading α :=
  let name? :=
    match json with
    | .text name => some name
    | .object [(name, .null)] => some name
    | _ => none
  match name?.bind (choices.lookup ·) with
  | some value => .ok value
  | none => .error (.unexpected "one of the known names")

/-- The number nearest to an integer. -/
def ofInteger (value : Int) : Number.Binary64 :=
  Number.Binary64.ofRatio (decide (value < 0)) value.natAbs 1

def asNumber : Json → Reading Number.Binary64
  | .integer value => .ok (ofInteger value)
  | .fraction value => .ok value
  | _ => .error (.unexpected "a number")

/-- A field that has to be there. -/
def required (json : Json) (name : String) (reading : Json → Reading α) : Reading α :=
  match json.field? name with
  | some value => reading value
  | none => .error (.missing name)

/-- A field that may be absent but not null. -/
def withDefault (json : Json) (name : String) (reading : Json → Reading α) (default : α) :
    Reading α :=
  match json.field? name with
  | some value => reading value
  | none => .ok default

/-- A field that may be absent or null. -/
def nullable (json : Json) (name : String) (reading : Json → Reading α) : Reading (Option α) :=
  match json.field? name with
  | none => .ok none
  | some .null => .ok none
  | some value => (reading value).map some

mutual

/-- Whether all of a value can be used, lists and objects nested at most `depth`
deep. -/
def isReadable (depth : Nat) : Json → Bool
  | .unusable => false
  | .list items => decide (0 < depth) && areReadable (depth - 1) items
  | .object fields => decide (0 < depth) && fieldsReadable (depth - 1) fields
  | _ => true

def areReadable (depth : Nat) : List Json → Bool
  | [] => true
  | item :: items => isReadable depth item && areReadable depth items

def fieldsReadable (depth : Nat) : List (String × Json) → Bool
  | [] => true
  | (_, value) :: fields => isReadable depth value && fieldsReadable depth fields

end

/-- A field that is written only when there is a value for it. -/
def whenSome (name : String) (encode : α → Json) : Option α → List (String × Json)
  | some value => [(name, encode value)]
  | none => []

end Json

end CorpusQuery
