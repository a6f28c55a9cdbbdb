import CorpusQuery.Problem

namespace CorpusQuery.Filter

/-! Values together with what examining an expression found out on the way: the
problems in their order, and the sources that the statement has to join. -/

structure Noted (α : Type) where
  value : α
  problems : List Problem := []
  /-- The row's anchors are referred to. -/
  anchors : Bool := false
  /-- The row's transcript is referred to. -/
  transcript : Bool := false

namespace Noted

instance : Monad Noted where
  pure value := { value }
  bind part next :=
    let rest := next part.value
    { value := rest.value
      problems := part.problems ++ rest.problems
      anchors := part.anchors || rest.anchors
      transcript := part.transcript || rest.transcript }

def problem (found : Problem) (value : α) : Noted α :=
  { value, problems := [found] }

def usingAnchors (value : α) : Noted α :=
  { value, anchors := true }

def usingTranscript (value : α) : Noted α :=
  { value, transcript := true }

end Noted

end CorpusQuery.Filter
