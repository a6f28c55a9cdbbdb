import CorpusQuery.Sql.Literal
import CorpusQuery.Sql.Param
import CorpusQuery.Text.Blank

namespace CorpusQuery.Sql

/-! Stretches of SQL, composed of pieces whose part in the statement is known.

A fragment has two views: its text, with a placeholder for every bound value,
and the bound values in the order of their placeholders.  Both are homomorphisms
from concatenation, so the two stay aligned however fragments are combined. -/

inductive Piece where
  /-- Keywords, operators, numbers and names, with the spaces around them. -/
  | words (text : String)
  /-- A column of the row with this name. -/
  | column (row name : String)
  /-- The place where a row source gets the name by which columns refer to it. -/
  | named (row : String)
  | opening
  | closing
  /-- The connectives, each with a space after it. -/
  | and
  | or
  | not
  /-- A text that the statement contains as a quoted literal. -/
  | marker (text : String)
  /-- A placeholder and the value bound to it. -/
  | bound (value : Param)
  /-- SQL from the caller with the values of its own placeholders. -/
  | given (sql : String) (params : List Param)
deriving DecidableEq

namespace Piece

def sql : Piece → String
  | .words text => text
  | .column row name => row ++ "." ++ name
  | .named row => row
  | .opening => "("
  | .closing => ")"
  | .and => "AND "
  | .or => "OR "
  | .not => "NOT "
  | .marker text => literal text
  | .bound _ => "?"
  | .given sql _ => sql

def params : Piece → List Param
  | .bound value => [value]
  | .given _ params => params
  | _ => []

end Piece

abbrev Fragment := List Piece

namespace Fragment

/-- The text of a fragment. -/
def sql (fragment : Fragment) : String :=
  fragment.foldr (fun piece rest => piece.sql ++ rest) ""

/-- The values of a fragment's placeholders, in their order in the text. -/
def params (fragment : Fragment) : List Param :=
  fragment.flatMap Piece.params

@[simp] theorem sql_nil : sql [] = "" := rfl

@[simp] theorem sql_cons (piece : Piece) (rest : Fragment) :
    sql (piece :: rest) = piece.sql ++ sql rest := rfl

@[simp] theorem sql_append (left right : Fragment) :
    sql (left ++ right) = sql left ++ sql right := by
  induction left with
  | nil => simp
  | cons piece rest ih => simp [ih, String.append_assoc]

@[simp] theorem params_append (left right : Fragment) :
    params (left ++ right) = params left ++ params right := by
  simp [params]

/-- Whether the text has nothing but white space in it. -/
def isBlank (fragment : Fragment) : Bool :=
  Text.allBlank fragment.sql

def parenthesized (fragment : Fragment) : Fragment :=
  .opening :: fragment ++ [.closing]

/-- The fragments in order, with the separator between them. -/
def join (separator : Fragment) : List Fragment → Fragment
  | [] => []
  | [last] => last
  | fragment :: rest => fragment ++ separator ++ join separator rest

/-- Fragments between commas. -/
def commaList : List Fragment → Fragment :=
  join [.words ", "]

/-- Fragments between `AND`s. -/
def conjunction : List Fragment → Fragment :=
  join [.words " ", .and]

/-- Fragments between `OR`s. -/
def disjunction : List Fragment → Fragment :=
  join [.words " ", .or]

end Fragment

/-- A row source and its name; a source whose name is its own table's, or that has
no name, is written once. -/
def relation (table row : String) : Fragment :=
  if row = "" ∨ row = table then [.named table] else [.words table, .words " ", .named row]

/-- Two columns compared. -/
def compareColumns (operator : String) (left right : String × String) : Fragment :=
  [.column left.1 left.2, .words (" " ++ operator ++ " "), .column right.1 right.2]

def equalColumns : String × String → String × String → Fragment :=
  compareColumns "="

/-- A statement that can be run: its text, and the values of its placeholders in
order. -/
structure Query where
  sql : String
  params : List Param
deriving DecidableEq

def Fragment.query (fragment : Fragment) : Query :=
  ⟨fragment.sql, fragment.params⟩

end CorpusQuery.Sql
