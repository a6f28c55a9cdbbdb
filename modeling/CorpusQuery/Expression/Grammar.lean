import CorpusQuery.Expression.Lexeme

namespace CorpusQuery.Expression

/-! The grammar of expressions, loosest binding first:

```text
expression := conjunction (("||" | "OR") conjunction)*
conjunction := unary (("&&" | "AND") unary)*
unary := ("!" | "NOT") unary | primary
primary := "(" expression ")" | "/" pattern "/.test(" operand ")" | predicate
predicate := operand (".includes(" operand ")" | ".includesAny(" operand ")" | comparison operand)
operand := postfixed ("??" postfixed)*
postfixed := atom [".length"]
atom := text | number | "null" | list | function | attribute | "(" operand ")"
```

A reader either takes a value off its input, and what follows is a proper suffix
of the input, or it gets stuck at a place, which is a suffix of the input too.
Where there are alternatives, the place is that of the last one.  A repetition
ends before a separator that no further element follows. -/

/-- A value read from the start of `input`, and the rest. -/
structure Taken (α : Type) (input : List Char) where
  value : α
  rest : List Char
  proper : Proper rest input

inductive Outcome (α : Type) (input : List Char) where
  | taken (read : Taken α input)
  | stuck (place : List Char) (within : place <:+ input)

/-- The further elements of a repetition, and the rest. -/
structure More (α : Type) (input : List Char) where
  items : List α
  rest : List Char
  within : rest <:+ input

namespace Taken

/-- The same value seen from a longer input. -/
def widen {longer : List Char} (read : Taken α input) (within : input <:+ longer) :
    Taken α longer :=
  ⟨read.value, read.rest, read.proper.trans_suffix within⟩

/-- Drops the spaces after the value. -/
def trimmed (read : Taken α input) : Taken α input :=
  ⟨read.value, skipSpace read.rest, .of_suffix (skipSpace_suffix _) read.proper⟩

def map (f : α → β) (read : Taken α input) : Taken β input :=
  ⟨f read.value, read.rest, read.proper⟩

/-- The same value with the closing parenthesis after it, seen from the input before
the opening one. -/
def closed? {inside input : List Char} (read : Taken α middle) (skipped : middle <:+ inside)
    (outer : Proper inside input) : Option (Taken α input) :=
  match closed : mark? ')' (skipSpace read.rest) with
  | some tail =>
      some ⟨read.value, tail,
        .of_suffix
          ((proper_of_mark? closed).1.trans
            ((skipSpace_suffix read.rest).trans (read.proper.1.trans skipped)))
          outer⟩
  | none => none

end Taken

namespace More

def none (input : List Char) : More α input :=
  ⟨[], input, List.suffix_refl input⟩

def cons (first : Taken α input) (more : More α first.rest) : More α input :=
  ⟨first.value :: more.items, more.rest, more.within.trans first.proper.1⟩

def widen {longer : List Char} (more : More α input) (within : input <:+ longer) : More α longer :=
  ⟨more.items, more.rest, more.within.trans within⟩

/-- A repetition of at least one element; one element alone stands for itself. -/
def group (first : Taken α input) (more : More α first.rest) (make : List α → α) :
    Taken α input :=
  match more.items with
  | [] => ⟨first.value, more.rest, .of_suffix more.within first.proper⟩
  | items => ⟨make (first.value :: items), more.rest, .of_suffix more.within first.proper⟩

end More

/-! ### Operands -/

mutual

/-- The items of a list after the first, each behind a comma. -/
def moreItems (input : List Char) : More Operand input :=
  match comma : mark? ',' (skipSpace input) with
  | some behind =>
      have next := (proper_of_mark? comma).trans_suffix (skipSpace_suffix input)
      have := next.2
      have := (skipSpace_suffix behind).length_le
      match operand (skipSpace behind) with
      | .stuck .. => .none input
      | .taken item =>
          have := item.proper.2
          More.widen (.cons item (moreItems item.rest)) ((skipSpace_suffix behind).trans next.1)
  | none => .none input
termination_by 10 * input.length

/-- Operands between brackets. -/
def list (input : List Char) : Outcome (List Operand) input :=
  match opened : mark? '[' input with
  | some inside =>
      have outer := proper_of_mark? opened
      have := outer.2
      have := (skipSpace_suffix inside).length_le
      let items : More Operand (skipSpace inside) :=
        match operand (skipSpace inside) with
        | .stuck .. => .none _
        | .taken item =>
            have := item.proper.2
            .cons item (moreItems item.rest)
      have within : items.rest <:+ inside := items.within.trans (skipSpace_suffix inside)
      have place : skipSpace items.rest <:+ inside := (skipSpace_suffix items.rest).trans within
      match closed : mark? ']' (skipSpace items.rest) with
      | some tail =>
          .taken ⟨items.items, tail, .of_suffix ((proper_of_mark? closed).1.trans place) outer⟩
      | none => .stuck (skipSpace items.rest) (place.trans outer.1)
  | none => .stuck input (List.suffix_refl _)
termination_by 10 * input.length

def atom (input : List Char) : Outcome Operand input :=
  match read : leaf? input with
  | some (value, rest) => .taken ⟨value, rest, proper_of_leaf? read⟩
  | none =>
      match list input with
      | .taken read => .taken (read.map .list)
      | .stuck .. =>
          match opened : mark? '(' input with
          | some inside =>
              have outer := proper_of_mark? opened
              have := outer.2
              have := (skipSpace_suffix inside).length_le
              match operand (skipSpace inside) with
              | .stuck place within =>
                  .stuck place (within.trans ((skipSpace_suffix inside).trans outer.1))
              | .taken read =>
                  have place : skipSpace read.rest <:+ inside :=
                    (skipSpace_suffix read.rest).trans
                      (read.proper.1.trans (skipSpace_suffix inside))
                  match closed : mark? ')' (skipSpace read.rest) with
                  | some tail =>
                      .taken ⟨read.value, tail,
                        .of_suffix ((proper_of_mark? closed).1.trans place) outer⟩
                  | none => .stuck (skipSpace read.rest) (place.trans outer.1)
          | none => .stuck input (List.suffix_refl _)
termination_by 10 * input.length + 1

def postfixed (input : List Char) : Outcome Operand input :=
  match atom input with
  | .stuck place within => .stuck place within
  | .taken base =>
      match dot : mark? '.' base.rest with
      | some rest =>
          match word : keyword? "length" rest with
          | some tail =>
              .taken ⟨.length base.value, tail,
                .of_suffix ((suffix_of_keyword? word).trans (proper_of_mark? dot).1) base.proper⟩
          | none => .taken base
      | none => .taken base
termination_by 10 * input.length + 2

/-- The further choices of a coalescence, each behind `??`. -/
def moreChoices (input : List Char) : More Operand input :=
  match next : operator? "??" "??" input with
  | some behind =>
      have := (proper_of_operator? (by decide) next).2
      match postfixed behind with
      | .stuck .. => .none input
      | .taken item =>
          have := item.proper.2
          More.widen (.cons item (moreChoices item.rest))
            (proper_of_operator? (by decide) next).1
  | none => .none input
termination_by 10 * input.length

def operand (input : List Char) : Outcome Operand input :=
  match postfixed input with
  | .stuck place within => .stuck place within
  | .taken first =>
      have := first.proper.2
      .taken (More.group first (moreChoices first.rest) .coalesce)
termination_by 10 * input.length + 3

end

/-! ### Predicates -/

/-- The operand of a method call, in parentheses. -/
def argument? (input : List Char) : Option (Taken Operand input) :=
  match opened : mark? '(' (skipSpace input) with
  | some inside =>
      have outer := (proper_of_mark? opened).trans_suffix (skipSpace_suffix input)
      match operand (skipSpace inside) with
      | .stuck .. => none
      | .taken read => read.closed? (skipSpace_suffix inside) outer
  | none => none

/-- The operand of a method of this name, at the place where its dot stands. -/
def call? (word : String) (input : List Char) : Option (Taken Operand input) :=
  match dot : mark? '.' input with
  | some rest =>
      match named : keyword? word rest with
      | some inside =>
          (argument? inside).map
            (·.widen ((suffix_of_keyword? named).trans (proper_of_mark? dot).1))
      | none => none
  | none => none

def predicate (input : List Char) : Outcome Expression input :=
  match operand input with
  | .stuck place within => .stuck place within
  | .taken left =>
      let place := skipSpace left.rest
      have behind : place <:+ input := (skipSpace_suffix _).trans left.proper.1
      match call? "includesAny" place with
      | some items => .taken ((items.map (.includesAny left.value)).widen behind)
      | none =>
          match call? "includes" place with
          | some item => .taken ((item.map (.includes left.value)).widen behind)
          | none =>
              match symbol : comparison? place with
              | none => .stuck place behind
              | some (op, rest) =>
                  have within : skipSpace rest <:+ input :=
                    (skipSpace_suffix rest).trans ((proper_of_comparison? symbol).1.trans behind)
                  match operand (skipSpace rest) with
                  | .stuck place inner => .stuck place (inner.trans within)
                  | .taken right =>
                      .taken ((right.trimmed.map (.compare left.value op)).widen within)

/-- A pattern applied to an operand. -/
def test? (input : List Char) : Option (Taken Expression input) :=
  match head : testHead? input with
  | none => none
  | some (pattern, inside) =>
      have outer := proper_of_testHead? head
      match operand (skipSpace inside) with
      | .stuck .. => none
      | .taken read =>
          (read.map (.test pattern)).closed? (skipSpace_suffix inside) outer

/-! ### Expressions -/

mutual

/-- An expression in parentheses. -/
def enclosed? (input : List Char) : Option (Taken Expression input) :=
  match opened : mark? '(' input with
  | some inside =>
      have outer := proper_of_mark? opened
      have := outer.2
      have := (skipSpace_suffix inside).length_le
      match expression (skipSpace inside) with
      | .stuck .. => none
      | .taken read => read.closed? (skipSpace_suffix inside) outer
  | none => none
termination_by 10 * input.length

def primary (input : List Char) : Outcome Expression input :=
  match enclosed? input with
  | some read => .taken read
  | none =>
      match test? input with
      | some read => .taken read
      | none => predicate input
termination_by 10 * input.length + 5

/-- A negation sign or word, and the expression it negates. -/
def negated? (input : List Char) : Option (Taken Expression input) :=
  match sign : operator? "!" "NOT" input with
  | none => none
  | some rest =>
      have outer := proper_of_operator? (by decide) sign
      have := outer.2
      match unary rest with
      | .taken read => some ((read.map .not).widen outer.1)
      | .stuck .. => none
termination_by 10 * input.length

def unary (input : List Char) : Outcome Expression input :=
  match negated? input with
  | some read => .taken read
  | none =>
      have := (skipSpace_suffix input).length_le
      match primary (skipSpace input) with
      | .taken read => .taken (read.trimmed.widen (skipSpace_suffix input))
      | .stuck place within => .stuck place (within.trans (skipSpace_suffix input))
termination_by 10 * input.length + 6

/-- The further parts of a conjunction. -/
def moreConjuncts (input : List Char) : More Expression input :=
  match next : operator? "&&" "AND" input with
  | some behind =>
      have := (proper_of_operator? (by decide) next).2
      match unary behind with
      | .stuck .. => .none input
      | .taken item =>
          have := item.proper.2
          More.widen (.cons item (moreConjuncts item.rest))
            (proper_of_operator? (by decide) next).1
  | none => .none input
termination_by 10 * input.length

def conjunction (input : List Char) : Outcome Expression input :=
  match unary input with
  | .stuck place within => .stuck place within
  | .taken first =>
      have := first.proper.2
      .taken (More.group first (moreConjuncts first.rest) .and)
termination_by 10 * input.length + 7

/-- The further parts of a disjunction. -/
def moreAlternatives (input : List Char) : More Expression input :=
  match next : operator? "||" "OR" input with
  | some behind =>
      have := (proper_of_operator? (by decide) next).2
      match conjunction behind with
      | .stuck .. => .none input
      | .taken item =>
          have := item.proper.2
          More.widen (.cons item (moreAlternatives item.rest))
            (proper_of_operator? (by decide) next).1
  | none => .none input
termination_by 10 * input.length

def expression (input : List Char) : Outcome Expression input :=
  match conjunction input with
  | .stuck place within => .stuck place within
  | .taken first =>
      have := first.proper.2
      .taken (More.group first (moreAlternatives first.rest) .or)
termination_by 10 * input.length + 8

end

end CorpusQuery.Expression
