import CorpusQuery.Proofs.Expression.Junctions

namespace CorpusQuery

/-! Every tree that is read is one that the grammar can build, and some of those that are
not plain are read too: a length of a length, and numbers that are infinite. -/

/-! ### Numbers -/

namespace Number

theorem Binary64.ofRatio_ne_nan (negative : Bool) (numerator denominator : Nat) :
    ofRatio negative numerator denominator ≠ nan := by
  have parts (significand scale : Nat) : ofParts negative significand scale ≠ nan := by
    unfold ofParts
    split <;> exact nofun
  unfold ofRatio
  simp only
  split
  · exact parts _ _
  · exact parts _ _

theorem Decimal.round_ne_nan (negative : Bool) (d : Decimal) : d.round negative ≠ .nan := by
  unfold round
  simp only
  split
  · exact nofun
  · split
    · exact nofun
    · split
      · exact Binary64.ofRatio_ne_nan _ _ _
      · exact Binary64.ofRatio_ne_nan _ _ _

end Number

namespace Expression

/-- Whatever is read has a property. -/
def Gives (property : α → Prop) (result : Option (α × List Char)) : Prop :=
  ∀ value rest, result = some (value, rest) → property value

namespace Gives

variable {property : α → Prop}

theorem none : Gives property none :=
  nofun

theorem or {first second : Option (α × List Char)} (left : Gives property first)
    (right : Gives property second) : Gives property (first.or second) := by
  intro value rest read
  rcases Option.or_eq_some_iff.1 read with read | ⟨_, read⟩
  · exact left value rest read
  · exact right value rest read

theorem map {result : Option (α × List Char)} {wanted : β → Prop} {f : α × List Char → β × List Char}
    (each : ∀ value rest, result = some (value, rest) → wanted (f (value, rest)).1) :
    Gives wanted (result.map f) := by
  intro value rest read
  obtain ⟨⟨before, place⟩, inner, same⟩ := Option.map_eq_some_iff.1 read
  have last := each before place inner
  rwa [same] at last

theorem bind {result : Option β} {next : β → Option (α × List Char)}
    (each : ∀ value, result = some value → Gives property (next value)) :
    Gives property (result.bind next) := by
  intro value rest read
  obtain ⟨before, inner, read⟩ := Option.bind_eq_some_iff.1 read
  exact each before inner value rest read

theorem closing? {result : Option (α × List Char)} (gives : Gives property result) :
    Gives property (result.bind closing?) := by
  refine bind fun (value, place) read => ?_
  intro _ _ closed
  obtain ⟨_, _, same⟩ := Option.map_eq_some_iff.1 closed
  cases same
  exact gives value place read

end Gives

theorem proper_of_result {outcome : Outcome α input} {value : α} {rest : List Char}
    (taken : outcome.result = some (value, rest)) : Proper rest input := by
  cases outcome with
  | taken read =>
      cases taken
      exact read.proper
  | stuck place within => cases taken

theorem forall_followed {property : α → Prop} {input : List Char}
    {begun : Option (α × List Char)} {more : List Char → List α × List Char}
    (each : ∀ value rest, begun = some (value, rest) →
      property value ∧ ∀ item ∈ (more rest).1, property item) :
    ∀ item ∈ (followed input begun more).1, property item := by
  cases begun with
  | none => exact nofun
  | some read => exact List.forall_mem_cons.2 (each read.1 read.2 rfl)

/-- A repetition of what stands behind an operator. -/
theorem forall_more {property : α → Prop} {input : List Char} {symbol word : String}
    (named : symbol.toList ≠ [] ∧ word.toList ≠ []) {next : (place : List Char) → Outcome α place}
    (more : List Char → List α × List Char)
    (unfolds : more input = followed input
      ((operator? symbol word input).bind fun behind => (next behind).result) more)
    (each : ∀ rest, Proper rest input → Gives property (next rest).result)
    (further : ∀ rest, Proper rest input → ∀ item ∈ (more rest).1, property item) :
    ∀ item ∈ (more input).1, property item := by
  rw [unfolds]
  refine forall_followed fun value rest read => ?_
  obtain ⟨behind, sign, read⟩ := Option.bind_eq_some_iff.1 read
  have next : Proper behind input := proper_of_operator? named sign
  have last : Proper rest input := (proper_of_result read).trans_suffix next.1
  exact ⟨each behind next value rest read, further rest last⟩

theorem gathered_fst {property : α → Prop} {make : List α → α}
    (several : ∀ items, 2 ≤ items.length ∧ (∀ item ∈ items, property item) → property (make items))
    {first : α} {more : List α × List Char} (head : property first)
    (tail : ∀ item ∈ more.1, property item) : property (gathered make first more).1 := by
  obtain ⟨items, rest⟩ := more
  cases items with
  | nil => exact head
  | cons second items =>
      apply several
      exact ⟨by simp, List.forall_mem_cons.2 ⟨head, tail⟩⟩

/-! ### Leaves -/

theorem isPattern_cons {c : Char} (plain : c ≠ '\\') {chars : List Char}
    (pattern : IsPattern chars) : IsPattern (c :: chars) := by
  unfold IsPattern
  split
  · rename_i same
    cases same
  · rename_i same
    exact plain (List.cons.inj same).1
  · rename_i same
    exact absurd (List.cons.inj same).1 plain
  · rename_i same
    obtain rfl := (List.cons.inj same).2
    exact pattern

theorem isPattern_of_readPatternBody {input chars rest : List Char}
    (read : readPatternBody input = some (chars, rest)) : IsPattern chars := by
  fun_induction readPatternBody input generalizing chars with
  | case1 | case2 => simp at read
  | case3 c input ih =>
      obtain ⟨⟨inner, tail⟩, body, same⟩ := Option.map_eq_some_iff.1 read
      obtain ⟨rfl, rfl⟩ : patternEscape c ++ inner = chars ∧ tail = rest := by simpa using same
      unfold patternEscape
      split
      · exact isPattern_cons (by decide) (ih body)
      · rename_i other
        exact ⟨other, ih body⟩
  | case4 input =>
      obtain ⟨rfl, -⟩ : [] = chars ∧ input = rest := by simpa using read
      trivial
  | case5 c input lone pair _ ih =>
      obtain ⟨⟨inner, tail⟩, body, same⟩ := Option.map_eq_some_iff.1 read
      obtain ⟨rfl, rfl⟩ : c :: inner = chars ∧ tail = rest := by simpa using same
      refine isPattern_cons ?_ (ih body)
      rintro rfl
      cases input with
      | nil => exact lone rfl rfl
      | cons d input => exact pair d input rfl rfl

theorem isPattern_of_testHead? {input rest : List Char} {text : String}
    (found : testHead? input = some (text, rest)) : IsPattern text.toList := by
  unfold testHead? at found
  split at found
  · split at found
    · rename_i chars afterPattern read
      split at found
      · split at found
        · rename_i tail _
          obtain ⟨rfl, -⟩ : String.ofList chars = text ∧ tail = rest := by simpa using found
          rw [String.toList_ofList]
          exact isPattern_of_readPatternBody read
        · simp at found
      · simp at found
    · simp at found
  · simp at found

theorem built_of_number? (input : List Char) : Gives Operand.Built (number? input) := by
  have integer (n : Int) (rest : List Char) : Gives Operand.Built
      ((Number.int64? n).map fun value => (Operand.integer value, rest)) := by
    intro value _ read
    obtain ⟨word, _, same⟩ := Option.map_eq_some_iff.1 read
    cases same
    trivial
  unfold number?
  simp only
  split
  · exact .none
  · split
    · split
      · exact integer _ _
      · intro value _ read
        cases read
        exact Number.Decimal.round_ne_nan _ _
    · exact integer _ _

theorem built_of_listing {word : String} {make : String → Operand} (input : List Char)
    (built : ∀ layer, (make layer).Built) : Gives Operand.Built (do
      let rest ← keyword? word input
      let (layer, rest) ← layer? rest
      return (make layer, rest)) := by
  refine .bind fun _ _ => .bind fun (layer, _) _ => ?_
  intro value _ read
  cases read
  exact built layer

theorem built_of_function? (input : List Char) : Gives Operand.Built (function? input) := by
  have listing {word : String} {make : String → Operand} (built : ∀ layer, (make layer).Built) :=
    @built_of_listing word make input built
  refine .or ?_ (.or (listing fun _ => trivial) (.or (listing fun _ => trivial)
    (listing fun _ => trivial)))
  refine .bind fun _ _ => .bind fun (_, rest) _ => ?_
  simp only
  split
  · exact .map fun _ _ _ => trivial
  · exact .none

theorem built_of_leaf? (input : List Char) : Gives Operand.Built (leaf? input) := by
  have null : Gives Operand.Built ((keyword? "null" input).map (Operand.null, ·)) := by
    intro value _ read
    obtain ⟨_, _, same⟩ := Option.map_eq_some_iff.1 read
    cases same
    trivial
  refine .or (.map fun _ _ _ => trivial) (.or (built_of_number? input)
    (.or (built_of_function? input) (.or null (.map fun _ _ _ => trivial))))

/-! ### Operands -/

/-- What reading an input as an operand or as a part of one gives. -/
structure OperandsBuilt (input : List Char) : Prop where
  single : Gives Operand.Built (postfixed input).result
  whole : Gives Operand.Built (operand input).result
  items : ∀ item ∈ (moreItems input).pair.1, item.Built
  choices : ∀ item ∈ (moreChoices input).pair.1, item.Built

section Operands

variable {input : List Char} (shorter : ∀ rest, Proper rest input → OperandsBuilt rest)

include shorter

theorem built_of_mark {mark : Char} {inside : List Char} (opened : mark? mark input = some inside) :
    OperandsBuilt (skipSpace inside) :=
  shorter _ (.of_suffix (skipSpace_suffix inside) (proper_of_mark? opened))

theorem built_of_moreItems : ∀ item ∈ (moreItems input).pair.1, item.Built := by
  rw [moreItems_pair]
  refine forall_followed fun value rest read => ?_
  obtain ⟨behind, comma, read⟩ := Option.bind_eq_some_iff.1 read
  have next : Proper (skipSpace behind) input :=
    .of_suffix (skipSpace_suffix behind)
      ((proper_of_mark? comma).trans_suffix (skipSpace_suffix input))
  have last : Proper rest input := (proper_of_result read).trans_suffix next.1
  exact ⟨(shorter _ next).whole value rest read, (shorter rest last).items⟩

theorem built_of_list :
    Gives (fun items => ∀ item ∈ items, item.Built) (list input).result := by
  rw [list_result]
  refine .bind fun inside opened => ?_
  have next : Proper (skipSpace inside) input :=
    .of_suffix (skipSpace_suffix inside) (proper_of_mark? opened)
  have all : ∀ item ∈ (followed (skipSpace inside) (operand (skipSpace inside)).result
      fun rest => (moreItems rest).pair).1, item.Built := by
    refine forall_followed fun value rest read => ?_
    have last : Proper rest input := (proper_of_result read).trans_suffix next.1
    exact ⟨(shorter _ next).whole value rest read, (shorter rest last).items⟩
  intro items _ read
  obtain ⟨_, _, same⟩ := Option.map_eq_some_iff.1 read
  cases same
  exact all

theorem built_of_atom : Gives Operand.Built (atom input).result := by
  rw [atom_result]
  refine .or (built_of_leaf? input) (.or ?_ ?_)
  · exact .map fun items rest read => Operand.builtAll_iff.2 (built_of_list shorter items rest read)
  · exact .bind fun inside opened => (built_of_mark shorter opened).whole.closing?

theorem built_of_postfixed : Gives Operand.Built (postfixed input).result := by
  rw [postfixed_result]
  refine .map fun value rest read => ?_
  have built := built_of_atom shorter value rest read
  unfold lengthened
  split
  · exact built
  · exact built

theorem built_of_moreChoices : ∀ item ∈ (moreChoices input).pair.1, item.Built := by
  refine forall_more (by decide) (fun rest => (moreChoices rest).pair) (moreChoices_pair input)
    (fun rest proper => ?_) fun rest proper => ?_
  · exact (shorter rest proper).single
  · exact (shorter rest proper).choices

theorem built_of_operand : Gives Operand.Built (operand input).result := by
  rw [operand_result]
  refine .map fun value rest read => ?_
  apply gathered_fst
  · exact fun items several => ⟨several.1, Operand.builtAll_iff.2 several.2⟩
  · exact built_of_postfixed shorter value rest read
  · exact (shorter rest (proper_of_result read)).choices

end Operands

theorem operandsBuilt (input : List Char) : OperandsBuilt input := by
  -- A reader calls the others again only behind a mark or an element.
  have shorter (rest : List Char) (proper : Proper rest input) : OperandsBuilt rest :=
    operandsBuilt rest
  exact ⟨built_of_postfixed shorter, built_of_operand shorter, built_of_moreItems shorter,
    built_of_moreChoices shorter⟩
termination_by input.length
decreasing_by exact proper.2

/-! ### Predicates -/

theorem built_of_argument? (input : List Char) :
    Gives Operand.Built ((argument? input).map Taken.pair) := by
  rw [argument?_pair]
  exact .bind fun inside _ => (operandsBuilt (skipSpace inside)).whole.closing?

theorem built_of_call? (word : String) (input : List Char) :
    Gives Operand.Built ((call? word input).map Taken.pair) := by
  rw [call?_pair]
  exact .bind fun inside _ => built_of_argument? inside

theorem built_of_predicated {left : Operand} (built : left.Built) (place : List Char) :
    Gives Built (predicated left place) := by
  refine .or ?_ (.or ?_ (.bind fun (_, rest) _ => ?_))
  · exact .map fun items rest read => ⟨built, built_of_call? _ _ items rest read⟩
  · exact .map fun item rest read => ⟨built, built_of_call? _ _ item rest read⟩
  · exact .map fun right _ read => ⟨built, (operandsBuilt _).whole right _ read⟩

theorem built_of_predicate (input : List Char) : Gives Built (predicate input).result := by
  rw [predicate_result]
  exact .bind fun (left, rest) read =>
    built_of_predicated ((operandsBuilt input).whole left rest read) _

theorem built_of_test? (input : List Char) : Gives Built ((test? input).map Taken.pair) := by
  rw [test?_pair]
  refine .bind fun (text, inside) head => .map fun value rest read => ?_
  exact ⟨isPattern_of_testHead? head, (operandsBuilt _).whole.closing? value rest read⟩

/-! ### Expressions -/

/-- What reading an input as an expression or as a part of one gives. -/
structure ExpressionsBuilt (input : List Char) : Prop where
  single : Gives Built (unary input).result
  joined : Gives Built (conjunction input).result
  whole : Gives Built (expression input).result
  conjuncts : ∀ item ∈ (moreConjuncts input).pair.1, item.Built
  alternatives : ∀ item ∈ (moreAlternatives input).pair.1, item.Built

section Expressions

variable {input : List Char} (shorter : ∀ rest, Proper rest input → ExpressionsBuilt rest)

include shorter

theorem built_of_primary {place : List Char} (suffix : place <:+ input) :
    Gives Built (primary place).result := by
  rw [primary_result, enclosed?_pair]
  refine .or (.bind fun inside opened => ?_) (.or (built_of_test? place) (built_of_predicate place))
  have next : Proper (skipSpace inside) input :=
    (Proper.of_suffix (skipSpace_suffix inside) (proper_of_mark? opened)).trans_suffix suffix
  exact (shorter _ next).whole.closing?

theorem built_of_unary : Gives Built (unary input).result := by
  rw [unary_result, negated?_pair]
  refine .or (.bind fun behind sign => .map fun inner rest read => ?_)
    (.map fun inner rest read => ?_)
  · exact (shorter behind (proper_of_operator? (by decide) sign)).single inner rest read
  · exact built_of_primary shorter (skipSpace_suffix input) inner rest read

theorem built_of_moreConjuncts : ∀ item ∈ (moreConjuncts input).pair.1, item.Built := by
  refine forall_more (by decide) (fun rest => (moreConjuncts rest).pair) (moreConjuncts_pair input)
    (fun rest proper => ?_) fun rest proper => ?_
  · exact (shorter rest proper).single
  · exact (shorter rest proper).conjuncts

theorem built_of_conjunction : Gives Built (conjunction input).result := by
  rw [conjunction_result]
  refine .map fun value rest read => ?_
  apply gathered_fst
  · exact fun items several => ⟨several.1, builtAll_iff.2 several.2⟩
  · exact built_of_unary shorter value rest read
  · exact (shorter rest (proper_of_result read)).conjuncts

theorem built_of_moreAlternatives : ∀ item ∈ (moreAlternatives input).pair.1, item.Built := by
  refine forall_more (by decide) (fun rest => (moreAlternatives rest).pair)
    (moreAlternatives_pair input) (fun rest proper => ?_) fun rest proper => ?_
  · exact (shorter rest proper).joined
  · exact (shorter rest proper).alternatives

theorem built_of_expression : Gives Built (expression input).result := by
  rw [expression_result]
  refine .map fun value rest read => ?_
  apply gathered_fst
  · exact fun items several => ⟨several.1, builtAll_iff.2 several.2⟩
  · exact built_of_conjunction shorter value rest read
  · exact (shorter rest (proper_of_result read)).alternatives

end Expressions

theorem expressionsBuilt (input : List Char) : ExpressionsBuilt input := by
  have shorter (rest : List Char) (proper : Proper rest input) : ExpressionsBuilt rest :=
    expressionsBuilt rest
  exact ⟨built_of_unary shorter, built_of_conjunction shorter, built_of_expression shorter,
    built_of_moreConjuncts shorter, built_of_moreAlternatives shorter⟩
termination_by input.length
decreasing_by exact proper.2

theorem built_of_readAll {input : List Char} {e : Expression} (accepted : readAll input = .ok e) :
    e.Built := by
  obtain ⟨rest, read, _⟩ := readAll_eq_ok.1 accepted
  exact (expressionsBuilt _).whole e rest read

/-! ### Trees that are not plain -/

open Operand (Halts)

theorem operand_write {o : Operand} (built : o.Built) (plain : o.Plain) {rest : List Char}
    (closes : Closes rest) : (operand (o.write ++ rest)).result = some (o, rest) := by
  rcases told_operand built closes with ⟨_, read⟩ | ⟨bad, _⟩
  · exact read
  · exact absurd plain bad

theorem operand_of_postfixed {o : Operand} {input rest : List Char}
    (read : (postfixed input).result = some (o, rest))
    (stop : operator? "??" "??" rest = none) : (operand input).result = some (o, rest) := by
  rw [operand_result, read]
  simp only [Option.map_some, moreChoices_of_no_choice stop]
  rfl

/-- A whole text that is one comparison, its left side in any spelling. -/
theorem readAll_compare {left right : Operand} {spelling : List Char} (op : Comparison)
    (start : StartsWith isLeading spelling)
    (noGroup : ∀ rest, (enclosed? (spelling ++ rest)).map Taken.pair = none)
    (readLeft : ∀ rest, Closes rest → (operand (spelling ++ rest)).result = some (left, rest))
    (builtRight : right.Built) (plainRight : right.Plain) :
    readAll (spelling ++ ' ' :: (symbolChars op ++ ' ' :: right.write)) =
      .ok (.compare left op right) := by
  have start' := start.append (' ' :: (symbolChars op ++ ' ' :: right.write))
  have last : (operand (skipSpace right.write)).result = some (right, []) := by
    have read := operand_write builtRight plainRight .nil
    rw [← Operand.skipSpace_write builtRight, List.append_nil] at read
    exact read
  -- Told of `True`: the text is read, whether its value is plain or not.
  have unit : Told True (compare left op right) (skipSpace []) Halts
      (unary (spelling ++ ' ' :: (symbolChars op ++ ' ' :: right.write))).result := by
    refine .inl ⟨trivial, ?_⟩
    rw [unary_of_leading start', noGroup, Option.none_or, predicate_result,
      readLeft _ (closes_symbol op _)]
    simp only [Option.bind_some]
    rw [predicated_symbol, last]
    rfl
  have whole := expression_of_conjunction
    (conjunction_of_unary unit ClosesDisjunction.nil.noConjunct)
    ClosesDisjunction.nil.noAlternative
  rw [readAll_eq_ok, start'.opening.skipSpace_eq]
  rcases whole with ⟨_, read⟩ | ⟨bad, _⟩
  · exact ⟨[], read, rfl⟩
  · exact absurd trivial bad

/-- The length of an operand in parentheses. -/
def enclosedLength (o : Operand) : List Char :=
  '(' :: (o.write ++ ')' :: '.' :: ['l', 'e', 'n', 'g', 't', 'h'])

theorem enclosedLength_append (o : Operand) (rest : List Char) :
    enclosedLength o ++ rest =
      '(' :: (o.write ++ ')' :: '.' :: (['l', 'e', 'n', 'g', 't', 'h'] ++ rest)) := by
  simp only [enclosedLength, List.cons_append, List.append_assoc]

/-- Parentheses let a text take the length of any operand that reads back, also of a
length. -/
theorem readAll_enclosedLength {o right : Operand} (built : o.Built) (plain : o.Plain)
    (op : Comparison) (builtRight : right.Built) (plainRight : right.Plain) :
    readAll (enclosedLength o ++ ' ' :: (symbolChars op ++ ' ' :: right.write)) =
      .ok (.compare (.length o) op right) := by
  refine readAll_compare op ⟨'(', _, rfl, rfl⟩ (fun rest => ?_) (fun rest closes => ?_)
    builtRight plainRight
  · rw [enclosedLength_append]
    exact enclosed?_operand built (enclosed?_write o built _)
  · rw [enclosedLength_append]
    apply operand_of_postfixed _ closes.noChoice
    rw [postfixed_result, atom_parenthesis, Operand.skipSpace_write built,
      operand_write built plain (closes_parenthesis _), Option.bind_some, closing?_parenthesis,
      Option.map_some, lengthened_length o closes.word]

/-- Digits beyond the range of binary values are read as infinite. -/
theorem readAll_beyond {d : Number.Decimal} {chars whole fraction : List Char}
    (pointed : Number.Pointed d chars whole fraction) (positive : 0 < d.digits)
    (beyond : 330 < d.exponent + Number.Decimal.digitCount d.digits) {right : Operand}
    (op : Comparison) (builtRight : right.Built) (plainRight : right.Plain) :
    readAll (chars ++ ' ' :: (symbolChars op ++ ' ' :: right.write)) =
      .ok (.compare (.number (.infinite false)) op right) := by
  have rounded : d.round false = .infinite false := by
    unfold Number.Decimal.round
    simp only
    rw [if_neg (by omega), if_pos beyond]
  obtain ⟨c, more, begun⟩ := List.exists_cons_of_ne_nil pointed.whole_some
  have digit : c.isDigit := pointed.whole_digits c (begun ▸ List.mem_cons_self ..)
  have simple : isSimple c := Operand.isSimple_of_isDigit digit
  have start : chars = c :: (more ++ '.' :: fraction) := by
    rw [pointed.chars_eq, begun, List.cons_append]
  refine readAll_compare op ⟨c, _, start, isLeading_of_isSimple simple⟩ (fun rest => ?_)
    (fun rest closes => ?_) builtRight plainRight
  · rw [start]
    exact enclosed?_of_head (ne_of_fits simple rfl) _
  · have read : number? (chars ++ rest) = some (.number (d.round false), rest) :=
      number?_pointed false pointed closes.digit
    apply operand_of_postfixed _ closes.noChoice
    rw [postfixed_result, atom_of_leaf? (leaf?_of_number? read), Option.map_some,
      lengthened_of_not_length closes.notLength, rounded]

end Expression

end CorpusQuery
