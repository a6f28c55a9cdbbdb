import CorpusQuery.Expression.Grammar
import CorpusQuery.Problem
import CorpusQuery.Text.Blank

namespace CorpusQuery.Expression

/-! Whole texts read as expressions. -/

/-- What is said about the place where reading stopped. -/
def describePlace (place : List Char) : String :=
  let rest := Text.trimStart place
  if rest.isEmpty then "unexpected end of expression"
  else "unexpected input near `" ++ String.ofList (rest.take 20) ++ "`"

/-- The expression that takes up a whole text, or the place where reading got
stuck. -/
def readAll (input : List Char) : Except (List Char) Expression :=
  match expression (skipSpace input) with
  | .stuck place _ => .error place
  | .taken read =>
      match skipSpace read.rest with
      | [] => .ok read.value
      | place => .error place

/-- The number of bytes before a suffix of a text. -/
def byteOffset (text : String) (place : List Char) : Nat :=
  text.utf8ByteSize - (String.ofList place).utf8ByteSize

/-- The expression that a text stands for.  A blank text is no query at all. -/
def parse (text : String) : Except QueryError Expression :=
  if Text.allBlank text then .error .emptyQuery
  else
    match readAll text.toList with
    | .ok expression => .ok expression
    | .error place => .error (.unreadable (byteOffset text place) (describePlace place))

end CorpusQuery.Expression
