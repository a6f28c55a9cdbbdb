namespace CorpusQuery

/-! What can be wrong with a query. -/

/-- A fault that does not end the examination of a query, so that all faults of
this kind are reported together. -/
inductive Problem where
  | unknownLayer (layer : String)
  | invalidId (layer id : String)
  | notApplicable (construct subject : String)
  | invalidMatch (column : Nat) (message : String)
deriving DecidableEq, Repr

namespace Problem

def message : Problem → String
  | .unknownLayer layer => "invalid layer: " ++ layer
  | .invalidId layer id => "invalid annotation id for layer " ++ layer ++ ": " ++ id
  | .notApplicable construct subject => construct ++ " is not applicable to " ++ subject
  | .invalidMatch column message => "column " ++ toString column ++ ": " ++ message

end Problem

/-- Why a query has no statement. -/
inductive QueryError where
  | emptyQuery
  /-- The text of an expression could not be read past this byte. -/
  | unreadable (offset : Nat) (detail : String)
  | invalid (problems : List Problem)
deriving DecidableEq, Repr

namespace QueryError

def message : QueryError → String
  | .emptyQuery => "no query was supplied"
  | .unreadable offset detail =>
      "syntax error at offset " ++ toString offset ++ ": " ++ detail
  | .invalid problems => String.intercalate "; " (problems.map Problem.message)

end QueryError

/-- The value, unless there were problems; of equal problems the first is kept. -/
def acceptWithout (problems : List Problem) (value : α) : Except QueryError α :=
  match problems.eraseDups with
  | [] => .ok value
  | found => .error (.invalid found)

theorem acceptWithout_eq_ok {problems : List Problem} {value result : α} :
    acceptWithout problems value = .ok result ↔ problems = [] ∧ value = result := by
  cases problems with
  | nil => simp [acceptWithout]
  | cons first rest => simp [acceptWithout, List.eraseDups_cons]

end CorpusQuery
