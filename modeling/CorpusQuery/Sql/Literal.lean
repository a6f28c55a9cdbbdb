namespace CorpusQuery.Sql

/-! Quoted SQL literals, for the texts that a statement contains outright: layer
ids and the stems of uids.  All other values are bound to placeholders. -/

/-- A quote or a backslash doubled. -/
def literalChar (c : Char) : List Char :=
  match c with
  | '\'' => ['\'', '\'']
  | '\\' => ['\\', '\\']
  | c => [c]

/-- The text between single quotes, each quote and backslash in it doubled. -/
def literal (text : String) : String :=
  String.ofList ('\'' :: text.toList.flatMap literalChar ++ ['\''])

example : literal "o'clock" = "'o''clock'" := by decide

example : literal "a\\b" = "'a\\\\b'" := by decide

end CorpusQuery.Sql
