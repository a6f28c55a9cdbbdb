import CorpusQuery.Proofs.Expression.Groups

namespace CorpusQuery.Expression

/-! Canonical expressions in disjunctions, conjunctions, negations and parentheses. -/

open Operand (enclosed Halts)

/-! ### What can follow an expression -/

/-- What ends a conjunction. -/
structure ClosesConjunction (rest : List Char) : Prop extends Closes rest where
  noConjunct : operator? "&&" "AND" rest = none

/-- What ends a disjunction. -/
structure ClosesDisjunction (rest : List Char) : Prop extends ClosesConjunction rest where
  noAlternative : operator? "||" "OR" rest = none

theorem noConjunct_of_head {c : Char} (visible : isSpace c = false) (other : c ∉ ['&', 'A'])
    (rest : List Char) : operator? "&&" "AND" (c :: rest) = none := by
  have bySymbol : ['&', '&'].head?.any (· != c) := by
    simpa using fun same : '&' = c => other (same ▸ by decide)
  have byWord : ['A', 'N', 'D'].head?.any (· != c) := by
    simpa using fun same : 'A' = c => other (same ▸ by decide)
  exact operator?_of_head visible bySymbol byWord rest

theorem noAlternative_of_head {c : Char} (visible : isSpace c = false) (other : c ∉ ['|', 'O'])
    (rest : List Char) : operator? "||" "OR" (c :: rest) = none := by
  have bySymbol : ['|', '|'].head?.any (· != c) := by
    simpa using fun same : '|' = c => other (same ▸ by decide)
  have byWord : ['O', 'R'].head?.any (· != c) := by
    simpa using fun same : 'O' = c => other (same ▸ by decide)
  exact operator?_of_head visible bySymbol byWord rest

theorem ClosesDisjunction.nil : ClosesDisjunction [] where
  toCloses := .nil
  noConjunct := by
    have bySymbol : after? ['&', '&'] (skipSpace []) = none := rfl
    have byWord : after? ['A', 'N', 'D'] (skipSpace []) = none := rfl
    exact operator?_eq_none bySymbol byWord
  noAlternative := by
    have bySymbol : after? ['|', '|'] (skipSpace []) = none := rfl
    have byWord : after? ['O', 'R'] (skipSpace []) = none := rfl
    exact operator?_eq_none bySymbol byWord

theorem ClosesDisjunction.parenthesis (rest : List Char) : ClosesDisjunction (')' :: rest) where
  toCloses := closes_parenthesis rest
  noConjunct := noConjunct_of_head rfl (by decide) rest
  noAlternative := noAlternative_of_head rfl (by decide) rest

theorem closes_conjunct (item : Expression) (behind : List Char) :
    Closes ([' ', '&', '&', ' '] ++ conjunct item ++ behind) :=
  .spaced _ rfl (by decide)

theorem closes_alternative (item : Expression) (behind : List Char) :
    ClosesConjunction ([' ', '|', '|', ' '] ++ alternative item ++ behind) where
  toCloses := .spaced _ rfl (by decide)
  noConjunct := by
    rw [← operator?_skipSpace]
    exact noConjunct_of_head rfl (by decide) _

/-- A place where a reading cannot go on: before a length or choice that is left, or
before an operator whose second side does not read back. -/
def Stops (marks : List Char) (place : List Char) : Prop :=
  Halts place ∨ ∃ c ∈ marks, ∃ more, skipSpace place = c :: more

theorem Stops.mono {marks wider : List Char} {place : List Char} (stops : Stops marks place)
    (implied : ∀ c ∈ marks, c ∈ wider) : Stops wider place := by
  rcases stops with halts | ⟨c, mem, more⟩
  · exact .inl halts
  · exact .inr ⟨c, implied c mem, more⟩

theorem Stops.mark?_eq_none {marks : List Char} {place : List Char} (stops : Stops marks place)
    (other : ')' ∉ marks) : mark? ')' (skipSpace place) = none := by
  rcases stops with halts | ⟨c, mem, more, same⟩
  · exact mark?_of_halts halts
  · rw [same]
    apply mark?_of_ne
    rintro rfl
    exact other mem

theorem noConjunct_of_halts {place : List Char} (halts : Halts place) :
    operator? "&&" "AND" place = none := by
  rw [← operator?_skipSpace]
  obtain ⟨more, same⟩ | ⟨more, same⟩ := halts <;> rw [same] <;>
    exact noConjunct_of_head rfl (by decide) _

theorem noAlternative_of_stops {place : List Char} (stops : Stops ['&'] place) :
    operator? "||" "OR" place = none := by
  rw [← operator?_skipSpace]
  obtain (⟨more, same⟩ | ⟨more, same⟩) | ⟨c, mem, more, same⟩ := stops
  · rw [same]
    exact noAlternative_of_head rfl (by decide) _
  · rw [same]
    exact noAlternative_of_head rfl (by decide) _
  · obtain rfl : c = '&' := by simpa using mem
    rw [same]
    exact noAlternative_of_head rfl (by decide) _

/-! ### Units -/

/-- What reading the canonical text of an expression gives, wherever an expression can
stand. -/
structure Reads (e : Expression) : Prop where
  unit : ∀ rest, Closes rest →
    Told e.Plain e (skipSpace rest) Halts (unary (conjunct e ++ rest)).result
  part : ∀ rest, ClosesConjunction rest →
    Told e.Plain e (skipSpace rest) (Stops ['&']) (conjunction (alternative e ++ rest)).result
  whole : ∀ rest, ClosesDisjunction rest →
    Told e.Plain e (skipSpace rest) (Stops ['&', '|']) (expression (e.write ++ rest)).result

theorem moreConjuncts_of_no_conjunct {rest : List Char} (stop : operator? "&&" "AND" rest = none) :
    (moreConjuncts rest).pair = ([], rest) := by
  rw [moreConjuncts_pair, stop]
  rfl

theorem moreAlternatives_of_no_alternative {rest : List Char}
    (stop : operator? "||" "OR" rest = none) : (moreAlternatives rest).pair = ([], rest) := by
  rw [moreAlternatives_pair, stop]
  rfl

/-- One conjunct. -/
theorem conjunction_of_unary {plain : Prop} {e : Expression} {input rest : List Char}
    (told : Told plain e (skipSpace rest) Halts (unary input).result)
    (stop : operator? "&&" "AND" rest = none) :
    Told plain e (skipSpace rest) (Stops ['&']) (conjunction input).result := by
  rw [conjunction_result]
  rcases told with ⟨plain, read⟩ | ⟨bad, halts⟩
  · refine .inl ⟨plain, ?_⟩
    rw [read]
    simp only [Option.map_some,
      moreConjuncts_of_no_conjunct ((operator?_skipSpace _ _ rest).trans stop)]
    rfl
  · refine .inr ⟨bad, fun read taken => ?_⟩
    obtain ⟨before, inner, rfl⟩ := Option.map_eq_some_iff.1 taken
    have halts := halts before inner
    simp only [gathered_snd, moreConjuncts_of_no_conjunct (noConjunct_of_halts halts)]
    exact .inl halts

/-- One alternative. -/
theorem expression_of_conjunction {plain : Prop} {e : Expression} {input rest : List Char}
    (told : Told plain e (skipSpace rest) (Stops ['&']) (conjunction input).result)
    (stop : operator? "||" "OR" rest = none) :
    Told plain e (skipSpace rest) (Stops ['&', '|']) (expression input).result := by
  rw [expression_result]
  rcases told with ⟨plain, read⟩ | ⟨bad, halts⟩
  · refine .inl ⟨plain, ?_⟩
    rw [read]
    simp only [Option.map_some,
      moreAlternatives_of_no_alternative ((operator?_skipSpace _ _ rest).trans stop)]
    rfl
  · refine .inr ⟨bad, fun read taken => ?_⟩
    obtain ⟨before, inner, rfl⟩ := Option.map_eq_some_iff.1 taken
    have stops := halts before inner
    simp only [gathered_snd, moreAlternatives_of_no_alternative (noAlternative_of_stops stops)]
    exact stops.mono (by decide)

/-- An expression in parentheses. -/
theorem unary_parenthesis {e : Expression} (built : e.Built) {rest : List Char}
    (told : Told e.Plain e (')' :: rest) (Stops ['&', '|'])
      (expression (e.write ++ ')' :: rest)).result) :
    Told e.Plain e (skipSpace rest) Halts (unary ('(' :: (e.write ++ ')' :: rest))).result := by
  have start := (startsWith_write e built).append (')' :: rest)
  -- The parentheses would be an operand's if `e.write` were read as one up to the end.
  have noOperand : (operand ('(' :: (e.write ++ ')' :: rest))).result = none := by
    apply operand_of_atom
    rw [atom_parenthesis, start.skipSpace_eq, not_closed_write e built]
  have noPredicate : (predicate ('(' :: (e.write ++ ')' :: rest))).result = none := by
    rw [predicate_result, noOperand]
    rfl
  have closed : Told e.Plain e rest Halts
      ((expression (e.write ++ ')' :: rest)).result.bind closing?) :=
    told.closing? (fun _ stops => stops.mark?_eq_none (by decide)) _
  rw [unary_of_leading ⟨'(', _, rfl, rfl⟩, enclosed?_parenthesis, start.skipSpace_eq, noPredicate,
    Option.or_none]
  exact closed.trimmed

namespace Reads

theorem of_unary {e : Expression} (single : e.isJunction = false)
    (unit : ∀ rest, Closes rest →
      Told e.Plain e (skipSpace rest) Halts (unary (e.write ++ rest)).result) : Reads e := by
  have asConjunct : conjunct e = e.write := by
    rw [conjunct, single]
    rfl
  have asAlternative : alternative e = e.write := by
    have other : e.isOr = false := by
      cases e with
      | or => cases single
      | _ => rfl
    rw [alternative, other]
    rfl
  have part (rest : List Char) (closes : ClosesConjunction rest) :=
    conjunction_of_unary (unit rest closes.toCloses) closes.noConjunct
  refine ⟨fun rest closes => ?_, fun rest closes => ?_, fun rest closes => ?_⟩
  · rw [asConjunct]
    exact unit rest closes
  · rw [asAlternative]
    exact part rest closes
  · exact expression_of_conjunction (part rest closes.toClosesConjunction) closes.noAlternative

/-- What starts with an operand. -/
theorem of_predicate {e : Expression} (single : e.isJunction = false)
    (start : ∀ rest, StartsWith isLeading (e.write ++ rest))
    (noGroup : ∀ rest, (enclosed? (e.write ++ rest)).map Taken.pair = none)
    (told : ∀ rest, Closes rest → ∃ behind, skipSpace behind = skipSpace rest ∧
      Told e.Plain e behind Halts (predicate (e.write ++ rest)).result) : Reads e := by
  refine of_unary single fun rest closes => ?_
  obtain ⟨behind, same, told⟩ := told rest closes
  rw [unary_of_leading (start rest), noGroup, Option.none_or, ← same]
  exact told.trimmed

theorem compare {left right : Operand} (op : Comparison) (builtLeft : left.Built)
    (builtRight : right.Built) : Reads (.compare left op right) := by
  refine of_predicate rfl (fun rest => ?_) (fun rest => ?_) fun rest closes =>
    ⟨skipSpace rest, skipSpace_skipSpace rest, predicate_compare op builtLeft builtRight closes⟩
  · rw [write_compare]
    exact (Operand.startsWith_write left builtLeft).append _
  · rw [write_compare]
    exact enclosed?_write left builtLeft _

theorem includes {list item : Operand} (builtList : list.Built) (builtItem : item.Built) :
    Reads (.includes list item) := by
  refine of_predicate rfl (fun rest => ?_) (fun rest => ?_) fun rest _ =>
    ⟨rest, rfl, predicate_includes builtList builtItem rest⟩
  · rw [write_includes]
    exact (Operand.startsWith_choice (Operand.startsWith_write list builtList)).append _
  · rw [write_includes]
    exact enclosed?_choice list builtList _

theorem includesAny {list items : Operand} (builtList : list.Built) (builtItems : items.Built) :
    Reads (.includesAny list items) := by
  refine of_predicate rfl (fun rest => ?_) (fun rest => ?_) fun rest _ =>
    ⟨rest, rfl, predicate_includesAny builtList builtItems rest⟩
  · rw [write_includesAny]
    exact (Operand.startsWith_choice (Operand.startsWith_write list builtList)).append _
  · rw [write_includesAny]
    exact enclosed?_choice list builtList _

theorem test {text : String} {o : Operand} (valid : IsPattern text.toList) (built : o.Built) :
    Reads (.test text o) := by
  refine of_unary rfl fun rest _ => ?_
  have visible : isSpace '/' = false := rfl
  obtain ⟨chars, start⟩ : ∃ chars, (Expression.test text o).write ++ rest = '/' :: chars :=
    ⟨_, rfl⟩
  have told := told_test valid built rest
  rw [start] at told ⊢
  have noPredicate : (predicate ('/' :: chars)).result = none := by
    rw [predicate_result, operand_of_mark (by decide) (by decide) (by decide)]
    rfl
  rw [unary_result, negated?_of_head visible (by decide) (by decide), Option.none_or,
    skipSpace_cons chars visible, primary_result, enclosed?_of_head (by decide), Option.none_or,
    noPredicate, Option.or_none]
  exact told.trimmed

theorem not {inner : Expression} (built : inner.Built) (reads : Reads inner) :
    Reads (.not inner) := by
  refine of_unary rfl fun rest closes => ?_
  have start : StartsWith isOpening (negand inner ++ rest) :=
    (startsWith_enclosed (startsWith_write inner built) _).append rest
  have told : Told inner.Plain inner (skipSpace rest) Halts (unary (negand inner ++ rest)).result := by
    cases enclose : inner.isJunctionOrCompare with
    | true =>
        have text : negand inner ++ rest = '(' :: (inner.write ++ ')' :: rest) := by
          rw [negand, enclose, enclosed_true]
        rw [text]
        exact unary_parenthesis built (reads.whole _ (.parenthesis rest))
    | false =>
        have text : negand inner = conjunct inner := by
          have single : inner.isJunction = false := by
            cases inner with
            | or | and => cases enclose
            | _ => rfl
          rw [negand, conjunct, enclose, single]
        rw [text]
        exact reads.unit rest closes
  have visible : isSpace '!' = false := rfl
  have sign : operator? "!" "NOT" ('!' :: (negand inner ++ rest)) = some (negand inner ++ rest) := by
    have symbol : operator? "!" "NOT" (['!'] ++ (negand inner ++ rest)) =
        some (skipSpace (negand inner ++ rest)) := @operator?_symbol ['!'] rfl "NOT" _
    rw [start.skipSpace_eq] at symbol
    exact symbol
  have noPredicate : (predicate ('!' :: (negand inner ++ rest))).result = none := by
    rw [predicate_result, operand_of_mark (by decide) (by decide) (by decide)]
    rfl
  change Told _ _ _ _ (unary ('!' :: (negand inner ++ rest))).result
  rw [unary_result, negated?_pair, sign, Option.bind_some, skipSpace_cons _ visible,
    primary_result, enclosed?_of_head (by decide), test?_of_head (by decide), noPredicate,
    Option.none_or, Option.none_or, Option.map_none, Option.or_none]
  exact told.map Expression.not

/-! ### Conjunctions and disjunctions -/

theorem of_conjunction {items : List Expression} (built : (Expression.and items).Built)
    (part : ∀ rest, ClosesConjunction rest →
      Told (Expression.and items).Plain (.and items) (skipSpace rest) (Stops ['&'])
        (conjunction ((Expression.and items).write ++ rest)).result) : Reads (.and items) := by
  have whole (rest : List Char) (closes : ClosesDisjunction rest) :=
    expression_of_conjunction (part rest closes.toClosesConjunction) closes.noAlternative
  refine ⟨fun rest _ => ?_, part, whole⟩
  change Told _ _ _ _ (unary (enclosed true _ ++ rest)).result
  rw [enclosed_true]
  exact unary_parenthesis built (whole _ (.parenthesis rest))

theorem of_disjunction {items : List Expression} (built : (Expression.or items).Built)
    (whole : ∀ rest, ClosesDisjunction rest →
      Told (Expression.or items).Plain (.or items) (skipSpace rest) (Stops ['&', '|'])
        (expression ((Expression.or items).write ++ rest)).result) : Reads (.or items) := by
  have unit (rest : List Char) : Told (Expression.or items).Plain (.or items) (skipSpace rest) Halts
      (unary ('(' :: ((Expression.or items).write ++ ')' :: rest))).result :=
    unary_parenthesis built (whole _ (.parenthesis rest))
  refine ⟨fun rest _ => ?_, fun rest closes => ?_, whole⟩
  · change Told _ _ _ _ (unary (enclosed true _ ++ rest)).result
    rw [enclosed_true]
    exact unit rest
  · change Told _ _ _ _ (conjunction (enclosed true _ ++ rest)).result
    rw [enclosed_true]
    exact conjunction_of_unary (unit rest) closes.noConjunct

/-- `&&` and the conjunct after it. -/
theorem next_conjunct {item : Expression} (built : item.Built) (behind : List Char) :
    ((operator? "&&" "AND" (skipSpace ([' ', '&', '&', ' '] ++ conjunct item ++ behind))).bind
      fun rest => (unary rest).result) = (unary (conjunct item ++ behind)).result := by
  have start : StartsWith isOpening (conjunct item ++ behind) :=
    (startsWith_enclosed (startsWith_write item built) _).append behind
  have symbol : operator? "&&" "AND" (['&', '&'] ++ ' ' :: (conjunct item ++ behind)) =
      some (skipSpace (' ' :: (conjunct item ++ behind))) := @operator?_symbol ['&', '&'] rfl "AND" _
  have text : skipSpace ([' ', '&', '&', ' '] ++ conjunct item ++ behind) =
      ['&', '&'] ++ ' ' :: (conjunct item ++ behind) := rfl
  rw [text, symbol, Option.bind_some, skipSpace_space, start.skipSpace_eq]

/-- `||` and the alternative after it. -/
theorem next_alternative {item : Expression} (built : item.Built) (behind : List Char) :
    ((operator? "||" "OR" (skipSpace ([' ', '|', '|', ' '] ++ alternative item ++ behind))).bind
      fun rest => (conjunction rest).result) = (conjunction (alternative item ++ behind)).result := by
  have start : StartsWith isOpening (alternative item ++ behind) :=
    (startsWith_enclosed (startsWith_write item built) _).append behind
  have symbol : operator? "||" "OR" (['|', '|'] ++ ' ' :: (alternative item ++ behind)) =
      some (skipSpace (' ' :: (alternative item ++ behind))) := @operator?_symbol ['|', '|'] rfl "OR" _
  have text : skipSpace ([' ', '|', '|', ' '] ++ alternative item ++ behind) =
      ['|', '|'] ++ ' ' :: (alternative item ++ behind) := rfl
  rw [text, symbol, Option.bind_some, skipSpace_space, start.skipSpace_eq]

theorem and {items : List Expression} (several : 2 ≤ items.length) (built : BuiltAll items)
    (reads : ∀ item ∈ items, Reads item) : Reads (.and items) := by
  refine of_conjunction ⟨several, built⟩ fun rest closes => ?_
  change Told (PlainAll items) _ _ _ (conjunction (writeConjuncts items ++ rest)).result
  match items with
  | [] | [_] => simp at several
  | item :: second :: items =>
      rw [List.forall_mem_cons] at reads
      have all := builtAll_iff.1 built.2
      have done : ((operator? "&&" "AND" (skipSpace rest)).bind fun behind =>
          (unary behind).result) = none := by
        rw [operator?_skipSpace, closes.noConjunct]
        rfl
      have ends (place : List Char) (halts : Halts place) :
          ((operator? "&&" "AND" place).bind fun behind => (unary behind).result) = none := by
        rw [noConjunct_of_halts halts]
        rfl
      have implied (place : List Char) (halts : Halts place) : Stops ['&'] place := .inl halts
      have behind := follows_flatMap closes.toCloses (second :: items) fun item _ =>
        closes_conjunct item
      rw [writeConjuncts_cons, List.append_assoc, conjunction_result]
      refine Told.congr ?_ plainAll_iff.symm
      refine told_gathered .and (fun rest => (moreConjuncts rest).pair)
        (List.cons_ne_nil second items) (reads.1.unit _ behind) ?_ (fun place halts => ?_) implied
      · refine @told_more Expression (fun rest => (moreConjuncts rest).pair) _ _ skipSpace Closes Plain
          Halts (Stops ['&']) (second :: items) _ moreConjuncts_pair done closes.toCloses ends implied
          (fun item _ => closes_conjunct item)
          (fun item _ behind => .inr ⟨'&', by decide, _, rfl⟩) fun item mem behind closes => ?_
        rw [next_conjunct (all item mem)]
        exact (reads.2 item mem).unit behind closes
      · rw [moreConjuncts_pair, ends place halts]
        rfl

theorem or {items : List Expression} (several : 2 ≤ items.length) (built : BuiltAll items)
    (reads : ∀ item ∈ items, Reads item) : Reads (.or items) := by
  refine of_disjunction ⟨several, built⟩ fun rest closes => ?_
  change Told (PlainAll items) _ _ _ (expression (writeAlternatives items ++ rest)).result
  match items with
  | [] | [_] => simp at several
  | item :: second :: items =>
      rw [List.forall_mem_cons] at reads
      have all := builtAll_iff.1 built.2
      have done : ((operator? "||" "OR" (skipSpace rest)).bind fun behind =>
          (conjunction behind).result) = none := by
        rw [operator?_skipSpace, closes.noAlternative]
        rfl
      have ends (place : List Char) (stops : Stops ['&'] place) :
          ((operator? "||" "OR" place).bind fun behind => (conjunction behind).result) = none := by
        rw [noAlternative_of_stops stops]
        rfl
      have implied (place : List Char) (stops : Stops ['&'] place) : Stops ['&', '|'] place :=
        stops.mono (by decide)
      have behind := follows_flatMap closes.toClosesConjunction (second :: items) fun item _ =>
        closes_alternative item
      rw [writeAlternatives_cons, List.append_assoc, expression_result]
      refine Told.congr ?_ plainAll_iff.symm
      refine told_gathered .or (fun rest => (moreAlternatives rest).pair)
        (List.cons_ne_nil second items) (reads.1.part _ behind) ?_ (fun place stops => ?_) implied
      · refine @told_more Expression (fun rest => (moreAlternatives rest).pair) _ _ skipSpace
          ClosesConjunction Plain (Stops ['&']) (Stops ['&', '|']) (second :: items) _
          moreAlternatives_pair done closes.toClosesConjunction ends implied
          (fun item _ => closes_alternative item)
          (fun item _ behind => .inr ⟨'|', by decide, _, rfl⟩) fun item mem behind closes => ?_
        rw [next_alternative (all item mem)]
        exact (reads.2 item mem).part behind closes
      · rw [moreAlternatives_pair, ends place stops]
        rfl

end Reads

mutual

theorem reads : ∀ e : Expression, e.Built → Reads e
  | .or items, built => .or built.1 built.2 (readsAll items built.2)
  | .and items, built => .and built.1 built.2 (readsAll items built.2)
  | .not inner, built => .not built (reads inner built)
  | .compare _ op _, built => .compare op built.1 built.2
  | .test _ _, built => .test built.1 built.2
  | .includes _ _, built => .includes built.1 built.2
  | .includesAny _ _, built => .includesAny built.1 built.2

theorem readsAll : ∀ items : List Expression, BuiltAll items → ∀ item ∈ items, Reads item
  | [], _ => nofun
  | item :: items, built => by
      rw [List.forall_mem_cons]
      exact ⟨reads item built.1, readsAll items built.2⟩

end

end CorpusQuery.Expression
