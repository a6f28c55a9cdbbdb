import CorpusQuery.Expression.Reading

namespace CorpusQuery.Expression

/-! One equation for each reader, in which what is read is a value with the rest, as
for a lexeme. -/

def Taken.pair (read : Taken α input) : α × List Char :=
  (read.value, read.rest)

def Outcome.result : Outcome α input → Option (α × List Char)
  | .taken read => some read.pair
  | .stuck .. => none

@[simp]
theorem Outcome.result_taken (read : Taken α input) : (taken read).result = some read.pair := rfl

@[simp]
theorem Outcome.result_stuck (place : List Char) (within : place <:+ input) :
    (stuck place within : Outcome α input).result = none := rfl

def More.pair (more : More α input) : List α × List Char :=
  (more.items, more.rest)

/-- A value and the closing parenthesis after it. -/
def closing? (read : α × List Char) : Option (α × List Char) :=
  (mark? ')' (skipSpace read.2)).map (read.1, ·)

/-- An element and those after it; without an element, nothing is read. -/
def followed (input : List Char) (first : Option (α × List Char))
    (further : List Char → List α × List Char) : List α × List Char :=
  match first with
  | none => ([], input)
  | some (item, rest) => (item :: (further rest).1, (further rest).2)

/-- One element stands for itself. -/
def gathered (make : List α → α) (first : α) (more : List α × List Char) : α × List Char :=
  match more.1 with
  | [] => (first, more.2)
  | items => (make (first :: items), more.2)

theorem gathered_snd (make : List α → α) (first : α) (more : List α × List Char) :
    (gathered make first more).2 = more.2 := by
  unfold gathered
  split <;> rfl

theorem Taken.pair_closed? {inside input : List Char} (read : Taken α middle)
    (skipped : middle <:+ inside) (outer : Proper inside input) :
    (read.closed? skipped outer).map Taken.pair = closing? read.pair := by
  unfold Taken.closed? closing?
  split
  · rename_i tail closed
    simp only [Taken.pair, closed, Option.map_some]
  · rename_i closed
    simp only [Taken.pair, closed, Option.map_none]

theorem More.pair_group (first : Taken α input) (more : More α first.rest) (make : List α → α) :
    (More.group first more make).pair = gathered make first.value more.pair := by
  obtain ⟨items, rest, within⟩ := more
  cases items <;> rfl

/-! ### Operands -/

theorem moreItems_pair (input : List Char) :
    (moreItems input).pair =
      followed input
        ((mark? ',' (skipSpace input)).bind fun behind => (operand (skipSpace behind)).result)
        fun rest => (moreItems rest).pair := by
  rw [moreItems]
  split
  · rename_i behind comma
    simp only [comma, Option.bind_some]
    split
    · rename_i item
      simp only [item]
      rfl
    · rename_i item
      simp only [item]
      rfl
  · rename_i comma
    simp only [comma]
    rfl

/-- The items of a list, if there are any. -/
def items (inside : List Char) : More Operand (skipSpace inside) :=
  match operand (skipSpace inside) with
  | .stuck .. => .none _
  | .taken item => .cons item (moreItems item.rest)

theorem items_pair (inside : List Char) :
    (items inside).pair = followed (skipSpace inside) (operand (skipSpace inside)).result
      fun rest => (moreItems rest).pair := by
  unfold items
  split
  · rename_i stuck
    rw [stuck]
    rfl
  · rename_i taken
    rw [taken]
    rfl

theorem list_result (input : List Char) :
    (list input).result = (mark? '[' input).bind fun inside =>
      let items := followed (skipSpace inside) (operand (skipSpace inside)).result
        fun rest => (moreItems rest).pair
      (mark? ']' (skipSpace items.2)).map (items.1, ·) := by
  rw [list]
  split
  · rename_i inside opened
    simp only [opened, Option.bind_some]
    rw [← items_pair]
    split
    · rename_i tail closed
      exact (congrArg (Option.map ((items inside).items, ·)) closed).symm
    · rename_i closed
      exact (congrArg (Option.map ((items inside).items, ·)) closed).symm
  · rename_i opened
    simp only [opened]
    rfl

theorem atom_result (input : List Char) :
    (atom input).result = (leaf? input).or
      (((list input).result.map fun (items, rest) => (Operand.list items, rest)).or
        ((mark? '(' input).bind fun inside => (operand (skipSpace inside)).result.bind closing?)) := by
  rw [atom]
  split
  · rename_i value rest read
    simp only [read]
    rfl
  · rename_i read
    simp only [read, Option.none_or]
    split
    · rename_i items
      rw [items]
      rfl
    · rename_i items
      rw [items]
      split
      · rename_i inside opened
        simp only [opened, Option.bind_some]
        split
        · rename_i stuck
          rw [stuck]
          rfl
        · rename_i taken
          rw [taken]
          simp only [Outcome.result_taken, Outcome.result_stuck, Option.map_none, Option.none_or,
            Option.bind_some]
          split
          · rename_i tail closed
            simp only [closing?, Outcome.result_taken, Taken.pair, closed, Option.map_some]
          · rename_i closed
            simp only [closing?, Outcome.result_stuck, Taken.pair, closed, Option.map_none]
      · rename_i opened
        rw [opened]
        rfl

/-- What a dot and the word after it make of an operand. -/
def lengthened (read : Operand × List Char) : Operand × List Char :=
  match (mark? '.' read.2).bind (keyword? "length") with
  | some tail => (.length read.1, tail)
  | none => read

theorem postfixed_result (input : List Char) :
    (postfixed input).result = (atom input).result.map lengthened := by
  rw [postfixed]
  split
  · rename_i stuck
    rw [stuck]
    rfl
  · rename_i taken
    rw [taken]
    simp only [Outcome.result_taken, Option.map_some, lengthened, Taken.pair]
    split
    · rename_i rest dot
      simp only [dot, Option.bind_some]
      split
      · rename_i tail word
        simp only [word]
        rfl
      · rename_i word
        simp only [word]
        rfl
    · rename_i dot
      rw [dot]
      rfl

theorem moreChoices_pair (input : List Char) :
    (moreChoices input).pair =
      followed input ((operator? "??" "??" input).bind fun behind => (postfixed behind).result)
        fun rest => (moreChoices rest).pair := by
  rw [moreChoices]
  split
  · rename_i behind next
    simp only [next, Option.bind_some]
    split
    · rename_i item
      simp only [item]
      rfl
    · rename_i item
      simp only [item]
      rfl
  · rename_i next
    simp only [next]
    rfl

theorem operand_result (input : List Char) :
    (operand input).result = (postfixed input).result.map fun (first, rest) =>
      gathered .coalesce first (moreChoices rest).pair := by
  rw [operand]
  split
  · rename_i stuck
    rw [stuck]
    rfl
  · rename_i taken
    rw [taken]
    simp only [Outcome.result, Option.map_some, More.pair_group]
    rfl

/-! ### Predicates -/

theorem argument?_pair (input : List Char) :
    (argument? input).map Taken.pair = (mark? '(' (skipSpace input)).bind fun inside =>
      (operand (skipSpace inside)).result.bind closing? := by
  unfold argument?
  split
  · rename_i inside opened
    simp only [opened, Option.bind_some]
    split
    · rename_i stuck
      rw [stuck]
      rfl
    · rename_i taken
      rw [taken]
      exact Taken.pair_closed? _ _ _
  · rename_i opened
    rw [opened]
    rfl

theorem call?_pair (word : String) (input : List Char) :
    (call? word input).map Taken.pair = ((mark? '.' input).bind (keyword? word)).bind fun inside =>
      (argument? inside).map Taken.pair := by
  unfold call?
  split
  · rename_i rest dot
    simp only [dot, Option.bind_some]
    split
    · rename_i inside named
      simp only [named, Option.bind_some, Option.map_map]
      rfl
    · rename_i named
      rw [named]
      rfl
  · rename_i dot
    rw [dot]
    rfl

/-- What stands after the left operand of a predicate. -/
def predicated (left : Operand) (place : List Char) : Option (Expression × List Char) :=
  (((call? "includesAny" place).map Taken.pair).map fun (items, rest) =>
      (Expression.includesAny left items, rest)).or <|
    (((call? "includes" place).map Taken.pair).map fun (item, rest) =>
      (Expression.includes left item, rest)).or <|
    (comparison? place).bind fun (op, rest) =>
      (operand (skipSpace rest)).result.map fun (right, rest) =>
        (.compare left op right, skipSpace rest)

theorem predicate_result (input : List Char) :
    (predicate input).result = (operand input).result.bind fun (left, rest) =>
      predicated left (skipSpace rest) := by
  unfold predicate
  split
  · rename_i stuck
    rw [stuck]
    rfl
  · rename_i left taken
    rw [taken]
    simp only [Outcome.result_taken, Option.bind_some, Taken.pair, predicated]
    split
    · rename_i items call
      rw [call]
      rfl
    · rename_i items
      rw [items]
      split
      · rename_i item call
        rw [call]
        rfl
      · rename_i item
        rw [item]
        split
        · rename_i symbol
          rw [symbol]
          rfl
        · rename_i op rest symbol
          simp only [symbol, Option.map_none, Option.none_or, Option.bind_some]
          split
          · rename_i stuck
            rw [stuck]
            rfl
          · rename_i right
            rw [right]
            rfl

theorem test?_pair (input : List Char) :
    (test? input).map Taken.pair = (testHead? input).bind fun (pattern, inside) =>
      ((operand (skipSpace inside)).result.bind closing?).map fun (operand, rest) =>
        (.test pattern operand, rest) := by
  unfold test?
  split
  · rename_i head
    rw [head]
    rfl
  · rename_i pattern inside head
    simp only [head, Option.bind_some]
    split
    · rename_i stuck
      rw [stuck]
      rfl
    · rename_i read taken
      rw [taken, Taken.pair_closed?]
      simp only [Outcome.result_taken, Option.bind_some, closing?, Option.map_map]
      rfl

/-! ### Expressions -/

theorem enclosed?_pair (input : List Char) :
    (enclosed? input).map Taken.pair = (mark? '(' input).bind fun inside =>
      (expression (skipSpace inside)).result.bind closing? := by
  rw [enclosed?]
  split
  · rename_i inside opened
    simp only [opened, Option.bind_some]
    split
    · rename_i stuck
      rw [stuck]
      rfl
    · rename_i taken
      rw [taken]
      exact Taken.pair_closed? _ _ _
  · rename_i opened
    rw [opened]
    rfl

theorem primary_result (input : List Char) :
    (primary input).result = ((enclosed? input).map Taken.pair).or
      (((test? input).map Taken.pair).or (predicate input).result) := by
  rw [primary]
  split
  · rename_i read
    rw [read]
    rfl
  · rename_i none
    rw [none]
    split
    · rename_i read
      rw [read]
      rfl
    · rename_i none
      rw [none]
      rfl

theorem negated?_pair (input : List Char) :
    (negated? input).map Taken.pair = (operator? "!" "NOT" input).bind fun rest =>
      (unary rest).result.map fun (inner, rest) => (.not inner, rest) := by
  rw [negated?]
  split
  · rename_i sign
    rw [sign]
    rfl
  · rename_i rest sign
    simp only [sign, Option.bind_some]
    split
    · rename_i taken
      rw [taken]
      rfl
    · rename_i stuck
      rw [stuck]
      rfl

theorem unary_result (input : List Char) :
    (unary input).result = ((negated? input).map Taken.pair).or
      ((primary (skipSpace input)).result.map fun (inner, rest) => (inner, skipSpace rest)) := by
  rw [unary]
  split
  · rename_i read
    rw [read]
    rfl
  · rename_i none
    rw [none]
    split
    · rename_i taken
      rw [taken]
      rfl
    · rename_i stuck
      rw [stuck]
      rfl

theorem moreConjuncts_pair (input : List Char) :
    (moreConjuncts input).pair =
      followed input ((operator? "&&" "AND" input).bind fun behind => (unary behind).result)
        fun rest => (moreConjuncts rest).pair := by
  rw [moreConjuncts]
  split
  · rename_i behind next
    simp only [next, Option.bind_some]
    split
    · rename_i item
      simp only [item]
      rfl
    · rename_i item
      simp only [item]
      rfl
  · rename_i next
    simp only [next]
    rfl

theorem conjunction_result (input : List Char) :
    (conjunction input).result = (unary input).result.map fun (first, rest) =>
      gathered .and first (moreConjuncts rest).pair := by
  rw [conjunction]
  split
  · rename_i stuck
    rw [stuck]
    rfl
  · rename_i taken
    rw [taken]
    simp only [Outcome.result, Option.map_some, More.pair_group]
    rfl

theorem moreAlternatives_pair (input : List Char) :
    (moreAlternatives input).pair =
      followed input ((operator? "||" "OR" input).bind fun behind => (conjunction behind).result)
        fun rest => (moreAlternatives rest).pair := by
  rw [moreAlternatives]
  split
  · rename_i behind next
    simp only [next, Option.bind_some]
    split
    · rename_i item
      simp only [item]
      rfl
    · rename_i item
      simp only [item]
      rfl
  · rename_i next
    simp only [next]
    rfl

theorem expression_result (input : List Char) :
    (expression input).result = (conjunction input).result.map fun (first, rest) =>
      gathered .or first (moreAlternatives rest).pair := by
  rw [expression]
  split
  · rename_i stuck
    rw [stuck]
    rfl
  · rename_i taken
    rw [taken]
    simp only [Outcome.result, Option.map_some, More.pair_group]
    rfl

theorem readAll_eq_ok {input : List Char} {value : Expression} :
    readAll input = .ok value ↔
      ∃ rest, (expression (skipSpace input)).result = some (value, rest) ∧ skipSpace rest = [] := by
  unfold readAll
  split
  · rename_i stuck
    rw [stuck]
    simp
  · rename_i read taken
    rw [taken]
    simp only [Outcome.result_taken, Option.some.injEq, Taken.pair, Prod.mk.injEq]
    split
    · rename_i used
      constructor
      · intro same
        cases same
        exact ⟨read.rest, ⟨rfl, rfl⟩, used⟩
      · rintro ⟨rest, ⟨rfl, -⟩, -⟩
        rfl
    · rename_i left
      constructor
      · intro same
        cases same
      · rintro ⟨rest, ⟨-, rfl⟩, used⟩
        exact absurd used left

end CorpusQuery.Expression
