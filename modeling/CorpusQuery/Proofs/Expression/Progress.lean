import CorpusQuery.Proofs.Expression.Follow
import CorpusQuery.Proofs.Expression.Recognition

namespace CorpusQuery.Expression

/-! Every reader ends on every input, within that input.

`Rule.pattern` writes the grammar down as patterns, of which nothing says that they end;
`Rule.ending` is where the readers do.  That these are the same on every input
(`Rule.endsAt_iff`) shows that neither the recursion of the grammar nor one of its
repetitions goes on without end. -/

inductive Rule where
  | expression | conjunction | unary | primary | predicate | operand | postfixed | atom | list
deriving DecidableEq, Repr

namespace Rule

open Pattern

/-- The operand of a method call, in parentheses. -/
def argument : Pattern Rule :=
  both (padded (mark '(')) (both (padded (rule operand)) (mark ')'))

def call (word : String) : Pattern Rule :=
  both (mark '.') (both (keyword word) argument)

/-- A pattern between slashes, applied to an operand. -/
def test : Pattern Rule :=
  both (value testHead?) (both (padded (rule operand)) (mark ')'))

def comparison : Pattern Rule :=
  both (value comparison?) (padded (rule operand))

def negation : Pattern Rule :=
  both (operator "!" "NOT") (rule unary)

def length : Pattern Rule :=
  both (mark '.') (keyword "length")

def comma : Pattern Rule :=
  padded (mark ',')

def choice : Pattern Rule :=
  padded (symbol "??")

/-- What each rule of the grammar stands for.

Where a lexeme other than a mark or a sign of comparison does not fit, something else is
tried, so that no place inside a word, a number or a text is ever reported. -/
def pattern : Rule → Pattern Rule
  | expression => separated (operator "||" "OR") (rule conjunction)
  | conjunction => separated (operator "&&" "AND") (rule unary)
  | unary => either negation (padded (rule primary))
  | primary => either (enclosed (rule expression)) (either test (rule predicate))
  | predicate =>
      both (rule operand)
        (both spaces (either (call "includesAny") (either (call "includes") comparison)))
  | operand => separated choice (rule postfixed)
  | postfixed => both (rule atom) (optional length)
  | atom => either (value leaf?) (either (rule list) (enclosed (rule operand)))
  | list =>
      both (mark '[') (both (padded (optional (separated comma (rule operand)))) (mark ']'))

end Rule

/-- Where a reader ends. -/
def Outcome.ending : Outcome α input → Ending
  | .taken read => .behind read.rest
  | .stuck place _ => .stuck place

theorem Outcome.ending_group (first : Taken α input) (more : More α first.rest)
    (make : List α → α) :
    (Outcome.taken (More.group first more make)).ending = .behind more.rest := by
  obtain ⟨items, rest, within⟩ := more
  cases items <;> rfl

/-- Where the reader for a rule ends. -/
def Rule.ending : Rule → List Char → Ending
  | expression, input => (Expression.expression input).ending
  | conjunction, input => (Expression.conjunction input).ending
  | unary, input => (Expression.unary input).ending
  | primary, input => (Expression.primary input).ending
  | predicate, input => (Expression.predicate input).ending
  | operand, input => (Expression.operand input).ending
  | postfixed, input => (Expression.postfixed input).ending
  | atom, input => (Expression.atom input).ending
  | list, input => (Expression.list input).ending

open Pattern Pattern.EndsAt

/-- A pattern takes what a reader does.  Where the pattern is stuck otherwise, such a reader
does not tell. -/
def Pattern.Takes (pattern : Pattern Rule) (input : List Char) : Option (Taken α input) → Prop
  | some read => pattern.EndsAt Rule.pattern input (.behind read.rest)
  | none => ∃ place, pattern.EndsAt Rule.pattern input (.stuck place)

/-! ### Parts of rules -/

section Parts

variable {opening part separator : Pattern Rule} {input inside middle : List Char}

/-- The closing parenthesis after a value. -/
theorem takes_closed? {read : Taken α middle} (skipped : middle <:+ inside)
    (outer : Proper inside input) {start : List Char} (same : skipSpace start = middle)
    (opened : opening.EndsAt Rule.pattern input (.behind start))
    (inner : part.EndsAt Rule.pattern middle (.behind read.rest)) :
    (both opening (both (padded part) (mark ')'))).Takes input (read.closed? skipped outer) := by
  subst same
  unfold Taken.closed?
  split
  · rename_i tail closed
    exact .both opened (.both (.padded inner) (.found closed))
  · rename_i closed
    exact ⟨_, .both opened (.both (.padded inner) (.missing closed))⟩

theorem cut_closed {start place : List Char} (same : skipSpace start = middle)
    (opened : opening.EndsAt Rule.pattern input (.behind start))
    (inner : part.EndsAt Rule.pattern middle (.stuck place)) :
    (both opening (both (padded part) (mark ')'))).EndsAt Rule.pattern input (.stuck place) := by
  subst same
  exact .both opened (.cut (.padded_cut inner))

/-- A repetition goes on behind each element that is read. -/
theorem endsAt_followed {sign : Option (List Char)} {reader : (place : List Char) → Outcome α place}
    {more : List Char → List α × List Char}
    (found : ∀ behind, sign = some behind →
      separator.EndsAt Rule.pattern input (.behind behind) ∧ Proper behind input)
    (missing : sign = none → ∃ place, separator.EndsAt Rule.pattern input (.stuck place))
    (each : ∀ behind, Proper behind input →
      part.EndsAt Rule.pattern behind (reader behind).ending)
    (further : ∀ rest, Proper rest input →
      (repeated (both separator part)).EndsAt Rule.pattern rest (.behind (more rest).2)) :
    (repeated (both separator part)).EndsAt Rule.pattern input
      (.behind (followed input (sign.bind fun behind => (reader behind).result) more).2) := by
  cases sign with
  | none =>
      obtain ⟨_, none⟩ := missing rfl
      exact .done (.cut none)
  | some behind =>
      obtain ⟨parted, next⟩ := found behind rfl
      have element := each behind next
      rw [Option.bind_some]
      cases begun : reader behind with
      | stuck place within =>
          rw [begun] at element
          exact .done (.both parted element)
      | taken read =>
          rw [begun] at element
          exact .again (.both parted element) (further read.rest (read.proper.trans_suffix next.1))

end Parts

/-- A repetition of what stands behind an operator. -/
theorem endsAt_more {part : Pattern Rule} {input : List Char} {symbol word : String}
    (named : symbol.toList ≠ [] ∧ word.toList ≠ []) {reader : (place : List Char) → Outcome α place}
    (more : List Char → List α × List Char)
    (unfolds : more input = followed input
      ((operator? symbol word input).bind fun behind => (reader behind).result) more)
    (each : ∀ rest, Proper rest input → part.EndsAt Rule.pattern rest (reader rest).ending)
    (further : ∀ rest, Proper rest input →
      (repeated (both (operator symbol word) part)).EndsAt Rule.pattern rest
        (.behind (more rest).2)) :
    (repeated (both (operator symbol word) part)).EndsAt Rule.pattern input
      (.behind (more input).2) := by
  rw [unfolds]
  exact endsAt_followed
    (fun _ sign => ⟨operator_found sign, proper_of_operator? named sign⟩)
    (fun none => ⟨_, operator_missing none⟩) each further

/-! ### Operands -/

theorem choice_found {input behind : List Char} (sign : operator? "??" "??" input = some behind) :
    Rule.choice.EndsAt Rule.pattern input (.behind behind) := by
  obtain ⟨tail, read, rfl⟩ := Option.map_eq_some_iff.1 sign
  refine .padded ?_
  rcases Option.or_eq_some_iff.1 read with bySymbol | ⟨noSymbol, byWord⟩
  · exact .found bySymbol
  · unfold keyword? at byWord
    rw [noSymbol] at byWord
    cases byWord

theorem choice_missing {input : List Char} (none : operator? "??" "??" input = none) :
    Rule.choice.EndsAt Rule.pattern input (.stuck (skipSpace input)) := by
  have noSymbol := (Option.or_eq_none_iff.1 (Option.map_eq_none_iff.1 none)).1
  exact padded_cut (.missing noSymbol)

/-- Where reading an input as an operand or as a part of one ends. -/
structure OperandsEnd (input : List Char) : Prop where
  single : (rule .postfixed).EndsAt Rule.pattern input (postfixed input).ending
  whole : (rule .operand).EndsAt Rule.pattern input (operand input).ending
  items : (repeated (both Rule.comma (rule .operand))).EndsAt Rule.pattern input
    (.behind (moreItems input).pair.2)
  choices : (repeated (both Rule.choice (rule .postfixed))).EndsAt Rule.pattern input
    (.behind (moreChoices input).pair.2)

section Operands

variable {input : List Char} (shorter : ∀ rest, Proper rest input → OperandsEnd rest)

include shorter

theorem endsAt_moreItems : (repeated (both Rule.comma (rule .operand))).EndsAt Rule.pattern input
    (.behind (moreItems input).pair.2) := by
  have unfolds : (moreItems input).pair = followed input
      (((mark? ',' (skipSpace input)).map skipSpace).bind fun behind => (operand behind).result)
      fun rest => (moreItems rest).pair := by
    rw [moreItems_pair, Option.bind_map]
    rfl
  rw [unfolds]
  refine endsAt_followed (fun behind sign => ?_) (fun none => ?_)
    (fun behind next => (shorter behind next).whole) (fun rest next => (shorter rest next).items)
  · obtain ⟨tail, comma, rfl⟩ := Option.map_eq_some_iff.1 sign
    exact ⟨.padded (.found comma), .of_suffix (skipSpace_suffix tail)
      ((proper_of_mark? comma).trans_suffix (skipSpace_suffix input))⟩
  · exact ⟨_, .padded_cut (.missing (Option.map_eq_none_iff.1 none))⟩

theorem endsAt_list : (rule .list).EndsAt Rule.pattern input (list input).ending := by
  apply EndsAt.rule
  rw [list]
  split
  · rename_i inside opened
    have next : Proper (skipSpace inside) input :=
      .of_suffix (skipSpace_suffix inside) (proper_of_mark? opened)
    have content : (optional (separated Rule.comma (rule .operand))).EndsAt Rule.pattern
        (skipSpace inside) (.behind (items inside).rest) := by
      have whole := (shorter _ next).whole
      unfold items
      split
      · rename_i stuck
        rw [stuck] at whole
        exact .second (.cut whole) (.found rfl)
      · rename_i item taken
        rw [taken] at whole
        exact .first (.both whole (shorter item.rest (item.proper.trans_suffix next.1)).items)
    simp only
    split
    · rename_i tail closed
      exact .both (.found opened) (.both (.padded content) (.found closed))
    · rename_i closed
      exact .both (.found opened) (.both (.padded content) (.missing closed))
  · rename_i opened
    exact .cut (.missing opened)

theorem endsAt_atom : (rule .atom).EndsAt Rule.pattern input (atom input).ending := by
  have items := endsAt_list shorter
  apply EndsAt.rule
  rw [atom]
  split
  · rename_i read
    exact .first (value_found read)
  · rename_i read
    refine .second (value_missing read) ?_
    split
    · rename_i taken
      rw [taken] at items
      exact .first items
    · rename_i stuck
      rw [stuck] at items
      refine .second items ?_
      split
      · rename_i inside opened
        have whole := (shorter (skipSpace inside)
          (.of_suffix (skipSpace_suffix inside) (proper_of_mark? opened))).whole
        split
        · rename_i stuck
          rw [stuck] at whole
          exact cut_closed rfl (.found opened) whole
        · rename_i taken
          rw [taken] at whole
          split
          · rename_i closed
            exact .both (.found opened) (.both (.padded whole) (.found closed))
          · rename_i closed
            exact .both (.found opened) (.both (.padded whole) (.missing closed))
      · rename_i opened
        exact .cut (.missing opened)

theorem endsAt_postfixed :
    (rule .postfixed).EndsAt Rule.pattern input (postfixed input).ending := by
  have base := endsAt_atom shorter
  apply EndsAt.rule
  rw [postfixed]
  split
  · rename_i stuck
    rw [stuck] at base
    exact .cut base
  · rename_i taken
    rw [taken] at base
    refine .both base ?_
    split
    · rename_i dot
      split
      · rename_i word
        exact .first (.both (.found dot) (.found word))
      · rename_i word
        exact .second (.both (.found dot) (.missing word)) (.found rfl)
    · rename_i dot
      exact .second (.cut (.missing dot)) (.found rfl)

theorem endsAt_moreChoices :
    (repeated (both Rule.choice (rule .postfixed))).EndsAt Rule.pattern input
      (.behind (moreChoices input).pair.2) := by
  rw [moreChoices_pair]
  exact endsAt_followed
    (fun _ sign => ⟨choice_found sign, proper_of_operator? (by decide) sign⟩)
    (fun none => ⟨_, choice_missing none⟩) (fun behind next => (shorter behind next).single)
    (fun rest next => (shorter rest next).choices)

theorem endsAt_operand : (rule .operand).EndsAt Rule.pattern input (operand input).ending := by
  have head := endsAt_postfixed shorter
  apply EndsAt.rule
  rw [operand]
  split
  · rename_i stuck
    rw [stuck] at head
    exact .cut head
  · rename_i first taken
    rw [taken] at head
    rw [Outcome.ending_group]
    exact .both head (shorter first.rest first.proper).choices

end Operands

theorem operandsEnd (input : List Char) : OperandsEnd input := by
  -- A reader calls the others again only behind a mark or an element.
  have shorter (rest : List Char) (proper : Proper rest input) : OperandsEnd rest :=
    operandsEnd rest
  exact ⟨endsAt_postfixed shorter, endsAt_operand shorter, endsAt_moreItems shorter,
    endsAt_moreChoices shorter⟩
termination_by input.length
decreasing_by exact proper.2

/-! ### Predicates -/

theorem takes_argument? (input : List Char) : Rule.argument.Takes input (argument? input) := by
  unfold argument?
  split
  · rename_i inside opened
    have whole := (operandsEnd (skipSpace inside)).whole
    split
    · rename_i stuck
      rw [stuck] at whole
      exact ⟨_, cut_closed (skipSpace_skipSpace inside) (.padded (.found opened)) whole⟩
    · rename_i taken
      rw [taken] at whole
      exact takes_closed? _ _ (skipSpace_skipSpace inside) (.padded (.found opened)) whole
  · rename_i opened
    exact ⟨_, .cut (.padded_cut (.missing opened))⟩

theorem takes_call? (word : String) (input : List Char) :
    (Rule.call word).Takes input (call? word input) := by
  unfold call?
  split
  · rename_i dot
    split
    · rename_i inside named
      have operand := takes_argument? inside
      cases read : argument? inside with
      | none =>
          rw [read] at operand
          obtain ⟨_, operand⟩ := operand
          exact ⟨_, .both (.found dot) (.both (.found named) operand)⟩
      | some _ =>
          rw [read] at operand
          exact .both (.found dot) (.both (.found named) operand)
    · rename_i named
      exact ⟨_, .both (.found dot) (.cut (.missing named))⟩
  · rename_i dot
    exact ⟨_, .cut (.missing dot)⟩

theorem endsAt_predicate (input : List Char) :
    (rule .predicate).EndsAt Rule.pattern input (predicate input).ending := by
  have whole := (operandsEnd input).whole
  apply EndsAt.rule
  unfold predicate
  split
  · rename_i stuck
    rw [stuck] at whole
    exact .cut whole
  · rename_i left taken
    rw [taken] at whole
    refine .both whole (.both skipped ?_)
    -- The longer name comes first, as the shorter one is a beginning of it.
    have several := takes_call? "includesAny" (skipSpace left.rest)
    have one := takes_call? "includes" (skipSpace left.rest)
    simp only
    split
    · rename_i call
      rw [call] at several
      exact .first several
    · rename_i call
      rw [call] at several
      obtain ⟨_, several⟩ := several
      refine .second several ?_
      split
      · rename_i call
        rw [call] at one
        exact .first one
      · rename_i call
        rw [call] at one
        obtain ⟨_, one⟩ := one
        refine .second one ?_
        split
        · rename_i symbol
          exact .cut (value_missing symbol)
        · rename_i rest symbol
          have right := (operandsEnd (skipSpace rest)).whole
          refine .both (value_found symbol) ?_
          split
          · rename_i stuck
            rw [stuck] at right
            exact .padded_cut right
          · rename_i taken
            rw [taken] at right
            exact .padded right

theorem takes_test? (input : List Char) : Rule.test.Takes input (test? input) := by
  unfold test?
  split
  · rename_i head
    exact ⟨_, .cut (value_missing head)⟩
  · rename_i inside head
    have whole := (operandsEnd (skipSpace inside)).whole
    split
    · rename_i stuck
      rw [stuck] at whole
      exact ⟨_, cut_closed rfl (value_found head) whole⟩
    · rename_i read taken
      rw [taken] at whole
      exact takes_closed? _ _ rfl (value_found head) whole

/-! ### Expressions -/

/-- Where reading an input as an expression or as a part of one ends. -/
structure ExpressionsEnd (input : List Char) : Prop where
  single : (rule .unary).EndsAt Rule.pattern input (unary input).ending
  joined : (rule .conjunction).EndsAt Rule.pattern input (conjunction input).ending
  whole : (rule .expression).EndsAt Rule.pattern input (expression input).ending
  conjuncts : (repeated (both (operator "&&" "AND") (rule .unary))).EndsAt Rule.pattern input
    (.behind (moreConjuncts input).pair.2)
  alternatives : (repeated (both (operator "||" "OR") (rule .conjunction))).EndsAt Rule.pattern
    input (.behind (moreAlternatives input).pair.2)

section Expressions

variable {input : List Char} (shorter : ∀ rest, Proper rest input → ExpressionsEnd rest)

include shorter

theorem endsAt_primary {place : List Char} (suffix : place <:+ input) :
    (rule .primary).EndsAt Rule.pattern place (primary place).ending := by
  have group : (enclosed (rule .expression)).Takes place (enclosed? place) := by
    rw [enclosed?]
    split
    · rename_i inside opened
      have next : Proper (skipSpace inside) input :=
        (Proper.of_suffix (skipSpace_suffix inside) (proper_of_mark? opened)).trans_suffix suffix
      have whole := (shorter _ next).whole
      split
      · rename_i stuck
        rw [stuck] at whole
        exact ⟨_, cut_closed rfl (.found opened) whole⟩
      · rename_i taken
        rw [taken] at whole
        exact takes_closed? _ _ rfl (.found opened) whole
    · rename_i opened
      exact ⟨_, .cut (.missing opened)⟩
  have tested := takes_test? place
  apply EndsAt.rule
  rw [primary]
  split
  · rename_i read
    rw [read] at group
    exact .first group
  · rename_i none
    rw [none] at group
    obtain ⟨_, group⟩ := group
    refine .second group ?_
    split
    · rename_i read
      rw [read] at tested
      exact .first tested
    · rename_i none
      rw [none] at tested
      obtain ⟨_, tested⟩ := tested
      exact .second tested (endsAt_predicate place)

theorem takes_negated? : Rule.negation.Takes input (negated? input) := by
  rw [negated?]
  split
  · rename_i sign
    exact ⟨_, .cut (operator_missing sign)⟩
  · rename_i rest sign
    have inner := (shorter rest (proper_of_operator? (by decide) sign)).single
    split
    · rename_i taken
      rw [taken] at inner
      exact .both (operator_found sign) inner
    · rename_i stuck
      rw [stuck] at inner
      exact ⟨_, .both (operator_found sign) inner⟩

theorem endsAt_unary : (rule .unary).EndsAt Rule.pattern input (unary input).ending := by
  have sign := takes_negated? shorter
  have inner := endsAt_primary shorter (skipSpace_suffix input)
  apply EndsAt.rule
  rw [unary]
  split
  · rename_i read
    rw [read] at sign
    exact .first sign
  · rename_i none
    rw [none] at sign
    obtain ⟨_, sign⟩ := sign
    refine .second sign ?_
    split
    · rename_i taken
      rw [taken] at inner
      exact .padded inner
    · rename_i stuck
      rw [stuck] at inner
      exact .padded_cut inner

theorem endsAt_moreConjuncts :
    (repeated (both (operator "&&" "AND") (rule .unary))).EndsAt Rule.pattern input
      (.behind (moreConjuncts input).pair.2) :=
  endsAt_more (by decide) (fun rest => (moreConjuncts rest).pair) (moreConjuncts_pair input)
    (fun rest next => (shorter rest next).single) fun rest next => (shorter rest next).conjuncts

theorem endsAt_conjunction :
    (rule .conjunction).EndsAt Rule.pattern input (conjunction input).ending := by
  have head := endsAt_unary shorter
  apply EndsAt.rule
  rw [conjunction]
  split
  · rename_i stuck
    rw [stuck] at head
    exact .cut head
  · rename_i first taken
    rw [taken] at head
    rw [Outcome.ending_group]
    exact .both head (shorter first.rest first.proper).conjuncts

theorem endsAt_moreAlternatives :
    (repeated (both (operator "||" "OR") (rule .conjunction))).EndsAt Rule.pattern input
      (.behind (moreAlternatives input).pair.2) :=
  endsAt_more (by decide) (fun rest => (moreAlternatives rest).pair) (moreAlternatives_pair input)
    (fun rest next => (shorter rest next).joined) fun rest next => (shorter rest next).alternatives

theorem endsAt_expression :
    (rule .expression).EndsAt Rule.pattern input (expression input).ending := by
  have head := endsAt_conjunction shorter
  apply EndsAt.rule
  rw [expression]
  split
  · rename_i stuck
    rw [stuck] at head
    exact .cut head
  · rename_i first taken
    rw [taken] at head
    rw [Outcome.ending_group]
    exact .both head (shorter first.rest first.proper).alternatives

end Expressions

theorem expressionsEnd (input : List Char) : ExpressionsEnd input := by
  have shorter (rest : List Char) (proper : Proper rest input) : ExpressionsEnd rest :=
    expressionsEnd rest
  exact ⟨endsAt_unary shorter, endsAt_conjunction shorter, endsAt_expression shorter,
    endsAt_moreConjuncts shorter, endsAt_moreAlternatives shorter⟩
termination_by input.length
decreasing_by exact proper.2

/-! ### Rules -/

namespace Outcome

variable {outcome : Outcome α input} {rest place : List Char}

theorem proper_of_behind (ends : outcome.ending = .behind rest) : Proper rest input := by
  cases outcome with
  | taken read =>
      cases ends
      exact read.proper
  | stuck => cases ends

theorem suffix_of_stuck (ends : outcome.ending = .stuck place) : place <:+ input := by
  cases outcome with
  | taken => cases ends
  | stuck _ within =>
      cases ends
      exact within

end Outcome

namespace Rule

variable {input rest place : List Char}

theorem proper_of_behind {rule : Rule} (ends : rule.ending input = .behind rest) :
    Proper rest input := by
  cases rule <;> exact Outcome.proper_of_behind ends

theorem suffix_of_stuck {rule : Rule} (ends : rule.ending input = .stuck place) :
    place <:+ input := by
  cases rule <;> exact Outcome.suffix_of_stuck ends

theorem endsAt_ending (input : List Char) : ∀ name : Rule,
    (rule name).EndsAt pattern input (name.ending input)
  | expression => (expressionsEnd input).whole
  | conjunction => (expressionsEnd input).joined
  | unary => (expressionsEnd input).single
  | primary => endsAt_primary (fun rest _ => expressionsEnd rest) (List.suffix_refl input)
  | predicate => endsAt_predicate input
  | operand => (operandsEnd input).whole
  | postfixed => (operandsEnd input).single
  | atom => endsAt_atom fun rest _ => operandsEnd rest
  | list => endsAt_list fun rest _ => operandsEnd rest

theorem endsAt_iff {name : Rule} {ending : Ending} :
    (rule name).EndsAt pattern input ending ↔ name.ending input = ending := by
  constructor
  · exact (endsAt_ending input name).unique
  · rintro rfl
    exact endsAt_ending input name

end Rule

end CorpusQuery.Expression
