import CorpusQuery.Schema.Storage
import CorpusQuery.Sql.Select

namespace CorpusQuery

/-! Expressions over stored rows. -/

open Sql

/-- A function applied to a fragment. -/
def apply (function : String) (argument : Fragment) : Fragment :=
  .words function :: argument.parenthesized

/-- The label of a turn is the number of its speaker. -/
def turnSpeaker : Fragment :=
  apply "CAST" [.column "turn" "label", .words " AS SIGNED"]

/-- The uid that a stem and the number of an annotation make. -/
def uidFrom (stem : String) (number : Fragment) : Fragment :=
  apply "CONCAT" (.marker stem :: .words ", " :: number)

/-- The uid of the annotation whose number `number` is, where there are uids. -/
def uidOf? (storage : Storage) (number : Fragment) : Option Fragment :=
  storage.uidStem.map (uidFrom · number)

/-- A fragment that is one of the rows of a subquery. -/
def within (item : Fragment) (rows : Select) : Fragment :=
  item ++ .words " IN " :: Fragment.parenthesized rows.subquery

def existing (rows : Select) : Fragment :=
  .words "EXISTS " :: Fragment.parenthesized rows.subquery

end CorpusQuery
