import CorpusQuery.Filter.Target

namespace CorpusQuery.Filter

/-! What an operand stands for in a statement: a single value, a list of values, or
a column of the rows of another layer that belong to the subject's row. -/

open Sql

/-- The rows of another layer that belong to the subject's row, and the order that
makes one of them the first. -/
structure Related where
  rows : Select
  order : List Fragment

namespace Related

def listing (related : Related) (column : Fragment) : Select :=
  related.rows.column column

/-- A column of the first row. -/
def first (related : Related) (column : Fragment) : Fragment :=
  Fragment.parenthesized
    (Select.subquery
      { related.listing column with order := related.order, limit := some [.words "1"] })

def count (related : Related) : Fragment :=
  Fragment.parenthesized (related.listing (apply "COUNT" [.words "*"])).subquery

/-- Some row meets a condition. -/
def some (related : Related) (condition : Fragment) : Fragment :=
  existing ((related.listing [.words "*"]).restrict condition)

end Related

inductive Value where
  | scalar (fragment : Fragment)
  | literals (items : List Fragment)
  | rows (related : Related) (column : Fragment)

def nothing : Fragment :=
  [.words "NULL"]

/-- An item is in a list; a single value is a list of one. -/
def membership (item : Fragment) : Value → Fragment
  | .literals [] => [.words "FALSE"]
  | .literals items =>
      item ++ .words " IN " :: Fragment.parenthesized (Fragment.commaList items)
  | .rows related column => within item (related.listing column)
  | .scalar value => item ++ .words " = " :: value

/-- Two lists have an item in common. -/
def commonMember (left right : Value) : Fragment :=
  match left, right with
  | .rows related column, other => related.some (membership column other)
  | other, .rows related column => related.some (membership column other)
  | .literals [], _ => [.words "FALSE"]
  | .literals items, other =>
      Fragment.parenthesized (Fragment.disjunction (items.map (membership · other)))
  | .scalar value, other => membership value other

/-- A pattern matches a value, or some value of a list. -/
def matching (pattern : String) (negated : Bool) : Value → Fragment
  | .scalar value =>
      value ++ [.words (if negated then " NOT REGEXP " else " REGEXP "), .bound (.text pattern)]
  | .rows related column =>
      let found := related.some (column ++ [.words " REGEXP ", .bound (.text pattern)])
      if negated then .not :: found else found
  | .literals items =>
      let tests := items.map (· ++ [.words " REGEXP ", .bound (.text pattern)])
      let found := Fragment.parenthesized (Fragment.disjunction tests)
      if negated then .not :: found else found

/-- The number of characters of a value, or of items of a list. -/
def size : Value → Fragment
  | .scalar value => apply "CHAR_LENGTH" value
  | .literals items => [.words (toString items.length)]
  | .rows related _ => related.count

end CorpusQuery.Filter
