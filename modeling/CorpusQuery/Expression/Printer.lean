import CorpusQuery.Expression.Tree
import CorpusQuery.Number.Integer
import CorpusQuery.Number.Written

namespace CorpusQuery

/-! The canonical text of expressions. -/

namespace Expression

def quotedChar (c : Char) : List Char :=
  match c with
  | '\\' => ['\\', '\\']
  | '\'' => ['\\', '\'']
  | '\n' => ['\\', 'n']
  | '\t' => ['\\', 't']
  | '\r' => ['\\', 'r']
  | c => [c]

/-- A text between single quotes. -/
def quoted (text : String) : List Char :=
  '\'' :: text.toList.flatMap quotedChar ++ ['\'']

/-- A pattern with its slashes escaped; a backslash and what follows it stay as they
are. -/
def patternBody : List Char → List Char
  | [] => []
  | '\\' :: c :: rest => '\\' :: c :: patternBody rest
  | c :: rest => if c = '/' then '\\' :: '/' :: patternBody rest else c :: patternBody rest

def pattern (text : String) : List Char :=
  '/' :: patternBody text.toList ++ ['/']

/-- Whole numbers have all their digits and one decimal, other numbers the fewest
digits that read back. -/
def numeral (value : Number.Binary64) : List Char :=
  match value, value.wholePart? with
  | .finite negative .., some whole =>
      (Number.sign negative ++ toString whole ++ ".0").toList
  | _, _ => value.text.toList

end Expression

open Expression

namespace Operand

/-- An operand that has to be put in parentheses before a dot or between `??`. -/
def isCoalesce : Operand → Bool
  | .coalesce _ => true
  | _ => false

def enclosed (enclose : Bool) (chars : List Char) : List Char :=
  if enclose then '(' :: chars ++ [')'] else chars

mutual

def write : Operand → List Char
  | .text value => quoted value
  | .integer value => (Number.text value).toList
  | .number value => numeral value
  | .null => "null".toList
  | .list items => '[' :: writeItems items ++ [']']
  | .own attr => attr.name.toList
  | .first layer attr => "first(".toList ++ quoted layer ++ ").".toList ++ attr.name.toList
  | .labels layer => "labels(".toList ++ quoted layer ++ [')']
  | .all layer => "all(".toList ++ quoted layer ++ [')']
  | .annotators layer => "annotators(".toList ++ quoted layer ++ [')']
  | .length inner => enclosed inner.isCoalesce (write inner) ++ ".length".toList
  | .coalesce items => writeChoices items

/-- Items between commas. -/
def writeItems : List Operand → List Char
  | [] => []
  | [item] => write item
  | item :: items => write item ++ ", ".toList ++ writeItems items

/-- Items between `??`. -/
def writeChoices : List Operand → List Char
  | [] => []
  | [item] => enclosed item.isCoalesce (write item)
  | item :: items => enclosed item.isCoalesce (write item) ++ " ?? ".toList ++ writeChoices items

end

def display (operand : Operand) : String :=
  String.ofList operand.write

end Operand

namespace Expression

def isOr : Expression → Bool
  | .or _ => true
  | _ => false

def isJunction : Expression → Bool
  | .or _ | .and _ => true
  | _ => false

def isJunctionOrCompare : Expression → Bool
  | .or _ | .and _ | .compare .. => true
  | _ => false

mutual

def write : Expression → List Char
  | .or items => writeAlternatives items
  | .and items => writeConjuncts items
  | .not inner => '!' :: Operand.enclosed inner.isJunctionOrCompare (write inner)
  | .compare left op right =>
      left.write ++ ' ' :: op.symbol.toList ++ ' ' :: right.write
  | .test text operand => pattern text ++ ".test(".toList ++ operand.write ++ [')']
  | .includes list item =>
      Operand.enclosed list.isCoalesce list.write ++ ".includes(".toList ++ item.write ++ [')']
  | .includesAny list items =>
      Operand.enclosed list.isCoalesce list.write ++ ".includesAny(".toList ++ items.write ++ [')']

/-- Items between `||`, a disjunction among them in parentheses. -/
def writeAlternatives : List Expression → List Char
  | [] => []
  | [item] => Operand.enclosed item.isOr (write item)
  | item :: items =>
      Operand.enclosed item.isOr (write item) ++ " || ".toList ++ writeAlternatives items

/-- Items between `&&`, a disjunction or conjunction among them in parentheses. -/
def writeConjuncts : List Expression → List Char
  | [] => []
  | [item] => Operand.enclosed item.isJunction (write item)
  | item :: items =>
      Operand.enclosed item.isJunction (write item) ++ " && ".toList ++ writeConjuncts items

end

def display (expression : Expression) : String :=
  String.ofList expression.write

end Expression

end CorpusQuery
