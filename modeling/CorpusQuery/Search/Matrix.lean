import CorpusQuery.Number.Written

namespace CorpusQuery.Search

/-! Search matrices: a column for each word in a row, and in each column what the
layers have to say about the word. -/

open Number (Binary64)

/-- What is asked of the annotations of one layer. -/
structure LayerMatch where
  id : String
  /-- A regular expression for the whole label; an empty one asks for nothing. -/
  pattern : Option String := none
  /-- The smallest number that the label may be. -/
  min : Option Binary64 := none
  /-- The number that the label has to be below. -/
  max : Option Binary64 := none
  /-- The label must not match, or must be out of range. -/
  negated : Bool := false
  /-- This annotation is the one that the search is after. -/
  target : Bool := false
  /-- The word is the first one within the annotation. -/
  anchoredStart : Bool := false
  /-- The word is the last one within the annotation. -/
  anchoredEnd : Bool := false
deriving DecidableEq

structure Column where
  layers : List LayerMatch
  /-- How many words further on the word of the next column may be. -/
  adjacency : Nat := 1
deriving DecidableEq

structure Matrix where
  columns : List Column
deriving DecidableEq

namespace LayerMatch

/-- The pattern, unless it is empty. -/
def pattern? (wanted : LayerMatch) : Option String :=
  wanted.pattern.filter (· != "")

/-- The regular expression that matches a label if the pattern matches all of it. -/
def labelRegex (wanted : LayerMatch) : Option String :=
  wanted.pattern?.map fun pattern => "^(" ++ pattern ++ ")$"

def hasRange (wanted : LayerMatch) : Bool :=
  wanted.min.isSome || wanted.max.isSome

/-- Whether anything is asked of the label. -/
def hasCondition (wanted : LayerMatch) : Bool :=
  wanted.labelRegex.isSome || wanted.hasRange

def isAnchored (wanted : LayerMatch) : Bool :=
  wanted.anchoredStart || wanted.anchoredEnd

/-! ### Descriptions -/

def describePattern (wanted : LayerMatch) : String :=
  match wanted.pattern? with
  | some pattern => (if wanted.negated then " !~ /" else " ~ /") ++ pattern ++ "/"
  | none => ""

def describeBound : Option Binary64 → String
  | some bound => bound.text
  | none => ".."

def describeRange (wanted : LayerMatch) : String :=
  if wanted.hasRange then
    (if wanted.negated then " not in [" else " in [") ++ describeBound wanted.min ++ ", " ++
      describeBound wanted.max ++ ")"
  else ""

def describe (wanted : LayerMatch) : String :=
  wanted.id ++ wanted.describePattern ++ wanted.describeRange ++
    (if wanted.anchoredStart then " @start" else "") ++
    (if wanted.anchoredEnd then " @end" else "") ++
    (if wanted.target then " *" else "")

end LayerMatch

namespace Column

def describe (column : Column) : String :=
  "[" ++ String.intercalate " & " (column.layers.map LayerMatch.describe) ++ "]"

/-- What stands between the column and the next one. -/
def gap (column : Column) : String :=
  if column.adjacency = 1 then " " else " .." ++ toString column.adjacency ++ " "

def describeAll : List Column → String
  | [] => ""
  | [last] => last.describe
  | column :: rest => column.describe ++ column.gap ++ describeAll rest

end Column

namespace Matrix

/-- The matrix in one line, as in `[word ~ /a|the/] ..2 [pos ~ /N/ *]`. -/
def describe (matrix : Matrix) : String :=
  Column.describeAll matrix.columns

end Matrix

end CorpusQuery.Search
