import CorpusQuery.Expression.Tree

namespace CorpusQuery

/-! Which trees the grammar can build, and which of those their canonical text can
tell. -/

namespace Expression

/-- What can stand between slashes: read from left to right, each backslash has a
character after it, and that is no slash. -/
def IsPattern : List Char → Prop
  | [] => True
  | '\\' :: [] => False
  | '\\' :: c :: rest => c ≠ '/' ∧ IsPattern rest
  | _ :: rest => IsPattern rest

end Expression

namespace Operand

def isLength : Operand → Bool
  | .length _ => true
  | _ => false

mutual

/-- A choice is among two operands at least, and a number is one. -/
def Built : Operand → Prop
  | .number value => value ≠ .nan
  | .list items => BuiltAll items
  | .length inner => Built inner
  | .coalesce items => 2 ≤ items.length ∧ BuiltAll items
  | _ => True

def BuiltAll : List Operand → Prop
  | [] => True
  | item :: items => Built item ∧ BuiltAll items

end

mutual

/-- All numbers are finite, and no length is taken of a length. -/
def Plain : Operand → Prop
  | .number value => value.isFinite
  | .list items => PlainAll items
  | .length inner => inner.isLength = false ∧ Plain inner
  | .coalesce items => PlainAll items
  | _ => True

def PlainAll : List Operand → Prop
  | [] => True
  | item :: items => Plain item ∧ PlainAll items

end

theorem builtAll_iff {items : List Operand} : BuiltAll items ↔ ∀ item ∈ items, item.Built := by
  induction items with
  | nil => simp [BuiltAll]
  | cons item items ih => simp [BuiltAll, ih]

theorem plainAll_iff {items : List Operand} : PlainAll items ↔ ∀ item ∈ items, item.Plain := by
  induction items with
  | nil => simp [PlainAll]
  | cons item items ih => simp [PlainAll, ih]

end Operand

namespace Expression

mutual

/-- A disjunction or conjunction has two parts at least, and a pattern can stand
between slashes. -/
def Built : Expression → Prop
  | .or items => 2 ≤ items.length ∧ BuiltAll items
  | .and items => 2 ≤ items.length ∧ BuiltAll items
  | .not inner => Built inner
  | .compare left _ right => left.Built ∧ right.Built
  | .test pattern operand => IsPattern pattern.toList ∧ operand.Built
  | .includes list item => list.Built ∧ item.Built
  | .includesAny list items => list.Built ∧ items.Built

def BuiltAll : List Expression → Prop
  | [] => True
  | item :: items => Built item ∧ BuiltAll items

end

mutual

/-- All operands are plain. -/
def Plain : Expression → Prop
  | .or items => PlainAll items
  | .and items => PlainAll items
  | .not inner => Plain inner
  | .compare left _ right => left.Plain ∧ right.Plain
  | .test _ operand => operand.Plain
  | .includes list item => list.Plain ∧ item.Plain
  | .includesAny list items => list.Plain ∧ items.Plain

def PlainAll : List Expression → Prop
  | [] => True
  | item :: items => Plain item ∧ PlainAll items

end

theorem builtAll_iff {items : List Expression} : BuiltAll items ↔ ∀ item ∈ items, item.Built := by
  induction items with
  | nil => simp [BuiltAll]
  | cons item items ih => simp [BuiltAll, ih]

theorem plainAll_iff {items : List Expression} : PlainAll items ↔ ∀ item ∈ items, item.Plain := by
  induction items with
  | nil => simp [PlainAll]
  | cons item items ih => simp [PlainAll, ih]

/-- The trees that their canonical text tells. -/
structure WellFormed (e : Expression) : Prop where
  built : e.Built
  plain : e.Plain

end Expression

end CorpusQuery
