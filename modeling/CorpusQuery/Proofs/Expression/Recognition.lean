import CorpusQuery.Expression.Lexeme

namespace CorpusQuery.Expression

/-! Grammars with ordered alternatives, by the places where their patterns end.

Nothing bounds how long reading may go on.  A rule that asks for itself before it has
taken anything, or a repetition of a part that takes nothing, ends nowhere: that a
pattern has an ending is the same as that reading it comes to an end. -/

/-- Where reading ends: behind what was taken, or stuck at a place. -/
inductive Ending where
  | behind (rest : List Char)
  | stuck (place : List Char)
deriving DecidableEq, Repr

inductive Pattern (Name : Type) where
  /-- A part that has no other in it.  Where it does not fit, it is stuck at its start. -/
  | lexeme (next : List Char → Option (List Char))
  | rule (name : Name)
  | both (first second : Pattern Name)
  | either (first second : Pattern Name)
  | repeated (part : Pattern Name)

namespace Pattern

/-- A pattern or nothing. -/
def optional (part : Pattern Name) : Pattern Name :=
  either part (lexeme some)

/-- One element or more, each after the first behind a separator. -/
def separated (separator element : Pattern Name) : Pattern Name :=
  both element (repeated (both separator element))

def spaces : Pattern Name :=
  lexeme fun input => some (skipSpace input)

/-- A pattern with spaces on both sides. -/
def padded (part : Pattern Name) : Pattern Name :=
  both spaces (both part spaces)

def mark (c : Char) : Pattern Name :=
  lexeme (mark? c)

def symbol (chars : String) : Pattern Name :=
  lexeme (after? chars.toList)

def keyword (word : String) : Pattern Name :=
  lexeme (keyword? word)

/-- A symbol, or a word that stands for it, with spaces on both sides. -/
def operator (chars word : String) : Pattern Name :=
  padded (either (symbol chars) (keyword word))

/-- What a reader of values takes, whichever value it is. -/
def value (read : List Char → Option (α × List Char)) : Pattern Name :=
  lexeme fun input => (read input).map Prod.snd

/-- A pattern in parentheses. -/
def enclosed (part : Pattern Name) : Pattern Name :=
  both (mark '(') (both (padded part) (mark ')'))

/-- A pattern ends somewhere on an input, given what the rules stand for.

The first alternative that does not get stuck decides, and if all do, the place is that of
the last.  A repetition ends in front of the first part that gets stuck. -/
inductive EndsAt (grammar : Name → Pattern Name) : Pattern Name → List Char → Ending → Prop where
  | found (read : next input = some rest) : EndsAt grammar (lexeme next) input (.behind rest)
  | missing (read : next input = none) : EndsAt grammar (lexeme next) input (.stuck input)
  | rule (body : EndsAt grammar (grammar name) input ending) :
      EndsAt grammar (rule name) input ending
  | both (left : EndsAt grammar first input (.behind middle))
      (right : EndsAt grammar second middle ending) :
      EndsAt grammar (both first second) input ending
  | cut (left : EndsAt grammar first input (.stuck place)) :
      EndsAt grammar (both first second) input (.stuck place)
  | first (left : EndsAt grammar first input (.behind rest)) :
      EndsAt grammar (either first second) input (.behind rest)
  | second (left : EndsAt grammar first input (.stuck place))
      (right : EndsAt grammar second input ending) :
      EndsAt grammar (either first second) input ending
  | done (last : EndsAt grammar part input (.stuck place)) :
      EndsAt grammar (repeated part) input (.behind input)
  | again (next : EndsAt grammar part input (.behind rest))
      (more : EndsAt grammar (repeated part) rest ending) :
      EndsAt grammar (repeated part) input ending

namespace EndsAt

variable {grammar : Name → Pattern Name} {pattern part : Pattern Name}
  {input rest place : List Char} {next : List Char → Option (List Char)}

/-- A pattern ends at one place at most. -/
theorem unique {left right : Ending} (one : pattern.EndsAt grammar input left)
    (other : pattern.EndsAt grammar input right) : left = right := by
  -- How the first part ends settles which rules can have been used for the whole.
  induction one generalizing right with
  | found read =>
      cases other with
      | found read' => rw [Option.some.inj (read.symm.trans read')]
      | missing none => cases read.symm.trans none
  | missing none =>
      cases other with
      | found read => cases none.symm.trans read
      | missing _ => rfl
  | rule _ ih =>
      cases other with
      | rule body => exact ih body
  | both _ _ ihLeft ihRight =>
      cases other with
      | both left right =>
          cases ihLeft left
          exact ihRight right
      | cut left => cases ihLeft left
  | cut _ ih =>
      cases other with
      | both left _ => cases ih left
      | cut left => exact ih left
  | first _ ih =>
      cases other with
      | first left => exact ih left
      | second left _ => cases ih left
  | second _ _ ihLeft ihRight =>
      cases other with
      | first left => cases ihLeft left
      | second _ right => exact ihRight right
  | done _ ih =>
      cases other with
      | done _ => rfl
      | again next _ => cases ih next
  | again _ _ ihNext ihMore =>
      cases other with
      | done last => cases ihNext last
      | again next more =>
          cases ihNext next
          exact ihMore more

theorem skipped : (spaces : Pattern Name).EndsAt grammar input (.behind (skipSpace input)) :=
  .found rfl

theorem padded (inner : part.EndsAt grammar (skipSpace input) (.behind rest)) :
    part.padded.EndsAt grammar input (.behind (skipSpace rest)) :=
  .both skipped (.both inner skipped)

theorem padded_cut (inner : part.EndsAt grammar (skipSpace input) (.stuck place)) :
    part.padded.EndsAt grammar input (.stuck place) :=
  .both skipped (.cut inner)

theorem value_found {read : List Char → Option (α × List Char)} {item : α}
    (found : read input = some (item, rest)) :
    (value read : Pattern Name).EndsAt grammar input (.behind rest) := by
  apply EndsAt.found
  rw [found]
  rfl

theorem value_missing {read : List Char → Option (α × List Char)} (none : read input = none) :
    (value read : Pattern Name).EndsAt grammar input (.stuck input) := by
  apply EndsAt.missing
  rw [none]
  rfl

theorem operator_found {chars word : String} (sign : operator? chars word input = some rest) :
    (operator chars word : Pattern Name).EndsAt grammar input (.behind rest) := by
  obtain ⟨tail, read, rfl⟩ := Option.map_eq_some_iff.1 sign
  apply padded
  rcases Option.or_eq_some_iff.1 read with bySymbol | ⟨noSymbol, byWord⟩
  · exact .first (.found bySymbol)
  · exact .second (.missing noSymbol) (.found byWord)

theorem operator_missing {chars word : String} (none : operator? chars word input = none) :
    (operator chars word : Pattern Name).EndsAt grammar input (.stuck (skipSpace input)) := by
  obtain ⟨noSymbol, noWord⟩ := Option.or_eq_none_iff.1 (Option.map_eq_none_iff.1 none)
  exact padded_cut (.second (.missing noSymbol) (.missing noWord))

end EndsAt

end Pattern

end CorpusQuery.Expression
