import CorpusQuery.Json.Printer
import CorpusQuery.Text.Quoted

namespace CorpusQuery.Sql

/-! Values bound to the placeholders of a statement. -/

inductive Param where
  | text (value : String)
  | integer (value : Int64)
  | number (value : Number.Binary64)
deriving DecidableEq

namespace Param

/-- The value as it is listed for a reader: texts quoted, numbers without
exponent. -/
def display : Param → String
  | .text value => Text.quoted value
  | .integer value => Number.text value
  | .number value => value.text

def toJson : Param → Json
  | .text value => .text value
  | .integer value => .integer value.toInt
  | .number value => if value.isFinite then .fraction value else .null

/-- A JSON text or number; integers beyond 64 bits are numbers. -/
def ofJson? : Json → Option Param
  | .text value => some (.text value)
  | .integer value =>
      match Number.int64? value with
      | some word => some (.integer word)
      | none => some (.number (Json.ofInteger value))
  | .fraction value => some (.number value)
  | _ => none

end Param

end CorpusQuery.Sql
