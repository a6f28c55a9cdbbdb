import CorpusQuery.Proofs.Expression.Operands

namespace CorpusQuery

/-! Predicates on their canonical texts, and parentheses: those around an operand are
not taken for those around an expression, nor the other way round. -/

namespace Expression

open Operand (choice enclosed Halts)

/-! ### Operands in canonical texts -/

theorem told_operand {o : Operand} (built : o.Built) {rest : List Char} (closes : Closes rest) :
    Told o.Plain o rest Halts (operand (o.write ++ rest)).result :=
  (Operand.reads o built).whole rest closes

theorem told_choice {o : Operand} (built : o.Built) {rest : List Char} (closes : Closes rest) :
    Told o.Plain o rest Halts (operand (choice o ++ rest)).result :=
  Operand.told_operand_of_postfixed
    ((Operand.reads o built).postfixed rest closes.toEnds fun _ => closes.notLength) closes.noChoice

theorem mark?_of_halts {place : List Char} (halts : Halts place) :
    mark? ')' (skipSpace place) = none :=
  halts.mark?_eq_none (by decide) (by decide)

/-- An operand in parentheses. -/
theorem told_argument {o : Operand} (built : o.Built) (rest : List Char)
    (never : List Char → Prop) :
    Told o.Plain o rest never ((argument? ('(' :: (o.write ++ ')' :: rest))).map Taken.pair) := by
  rw [argument?_pair, skipSpace_cons _ (show isSpace '(' = false from rfl), mark?_cons,
    Option.bind_some, Operand.skipSpace_write built]
  exact (told_operand built (closes_parenthesis rest)).closing? (fun _ => mark?_of_halts) never

/-! ### Methods and comparisons -/

theorem call?_of_head {c : Char} (other : c ≠ '.') (word : String) (rest : List Char) :
    (call? word (c :: rest)).map Taken.pair = none := by
  rw [call?_pair, mark?_of_ne other]
  rfl

theorem call?_of_after? {word input : List Char} (differ : after? word input = none) :
    (call? (String.ofList word) ('.' :: input)).map Taken.pair = none := by
  rw [call?_pair, mark?_cons, Option.bind_some, keyword?_of_after? differ]
  rfl

theorem call?_append (word rest : List Char) :
    (call? (String.ofList word) ('.' :: (word ++ '(' :: rest))).map Taken.pair =
      (argument? ('(' :: rest)).map Taken.pair := by
  rw [call?_pair, mark?_cons, Option.bind_some, keyword?_append word rfl]
  rfl

/-- The symbols of comparisons as characters. -/
def symbolChars : Comparison → List Char
  | .eq => ['=', '=']
  | .strictEq => ['=', '=', '=']
  | .ne => ['!', '=']
  | .strictNe => ['!', '=', '=']
  | .lt => ['<']
  | .le => ['<', '=']
  | .gt => ['>']
  | .ge => ['>', '=']

theorem toList_symbol (op : Comparison) : op.symbol.toList = symbolChars op := by
  cases op <;> exact String.toList_ofList

theorem head_symbolChars (op : Comparison) :
    ∃ c more, symbolChars op = c :: more ∧ isSpace c = false ∧ c ∉ ['.', '?', ')'] := by
  cases op <;> exact ⟨_, _, rfl, rfl, by decide⟩

/-- Every symbol as characters. -/
def symbols : List (List Char × Comparison) :=
  [(['=', '=', '='], .strictEq), (['!', '=', '='], .strictNe), (['=', '='], .eq),
    (['!', '='], .ne), (['<', '='], .le), (['>', '='], .ge), (['<'], .lt), (['>'], .gt),
    (['='], .eq)]

theorem comparison?_eq (input : List Char) :
    comparison? input = symbols.findSome? fun (symbol, op) => (after? symbol input).map (op, ·) := by
  have chars : Comparison.symbols = symbols.map fun (symbol, op) => (String.ofList symbol, op) := rfl
  unfold comparison?
  rw [chars, List.findSome?_map]
  simp only [Function.comp_def, String.toList_ofList]

theorem comparison?_symbol (op : Comparison) (rest : List Char) :
    comparison? (symbolChars op ++ ' ' :: rest) = some (op, ' ' :: rest) := by
  rw [comparison?_eq]
  cases op <;> simp [symbols, symbolChars, after?]

theorem comparison?_of_head {c : Char} (other : c ∉ ['=', '!', '<', '>']) (rest : List Char) :
    comparison? (c :: rest) = none := by
  have heads : ∀ entry ∈ symbols, ∃ d ∈ ['=', '!', '<', '>'], entry.1.head? = some d := by decide
  rw [comparison?_eq, List.findSome?_eq_none_iff]
  intro entry mem
  obtain ⟨d, listed, head⟩ := heads entry mem
  have different : entry.1.head?.any (· != c) := by
    rw [head]
    simpa using fun same : d = c => other (same ▸ listed)
  simp only [after?_of_head different rest, Option.map_none]

/-- No predicate goes on with this. -/
theorem predicated_of_head {c : Char} (dot : c ≠ '.') (other : c ∉ ['=', '!', '<', '>'])
    (left : Operand) (rest : List Char) : predicated left (c :: rest) = none := by
  unfold predicated
  rw [call?_of_head dot, call?_of_head dot, comparison?_of_head other]
  rfl

theorem predicated_of_halts {place : List Char} (halts : Halts place) (left : Operand) :
    predicated left (skipSpace place) = none := by
  obtain ⟨more, same⟩ | ⟨more, same⟩ := halts
  · have any : (call? "includesAny" ('.' :: 'l' :: more)).map Taken.pair = none := by
      have differ : after? ['i', 'n', 'c', 'l', 'u', 'd', 'e', 's', 'A', 'n', 'y'] ('l' :: more) =
          none := after?_of_head rfl more
      exact call?_of_after? differ
    have one : (call? "includes" ('.' :: 'l' :: more)).map Taken.pair = none := by
      have differ : after? ['i', 'n', 'c', 'l', 'u', 'd', 'e', 's'] ('l' :: more) = none :=
        after?_of_head rfl more
      exact call?_of_after? differ
    unfold predicated
    rw [same, any, one, comparison?_of_head (by decide)]
    rfl
  · rw [same]
    exact predicated_of_head (by decide) (by decide) left more

/-! ### Predicates -/

theorem halts_skipSpace {place : List Char} (halts : Halts place) : Halts (skipSpace place) := by
  unfold Operand.Halts
  rw [skipSpace_skipSpace]
  exact halts

/-- What follows the left side of a comparison. -/
theorem closes_symbol (op : Comparison) (rest : List Char) :
    Closes (' ' :: (symbolChars op ++ rest)) := by
  obtain ⟨c, more, chars, visible, other⟩ := head_symbolChars op
  have choice : c ≠ '?' := by
    rintro rfl
    exact other (by decide)
  rw [chars]
  exact .spaced _ visible choice

theorem predicate_of_halts {input : List Char}
    (halts : ∀ read, (operand input).result = some read → Halts read.2) :
    (predicate input).result = none := by
  rw [predicate_result]
  cases taken : (operand input).result with
  | none => rfl
  | some read => exact predicated_of_halts (halts read taken) read.1

theorem predicated_symbol (left : Operand) (op : Comparison) (rest : List Char) :
    predicated left (skipSpace (' ' :: (symbolChars op ++ ' ' :: rest))) =
      (operand (skipSpace rest)).result.map fun (right, rest) =>
        (compare left op right, skipSpace rest) := by
  obtain ⟨c, more, chars, visible, other⟩ := head_symbolChars op
  have dot : c ≠ '.' := by
    rintro rfl
    exact other (by decide)
  have start : skipSpace (' ' :: (symbolChars op ++ ' ' :: rest)) =
      symbolChars op ++ ' ' :: rest := by
    rw [skipSpace_space, chars]
    exact skipSpace_cons _ visible
  have noCall (word : String) :
      (call? word (symbolChars op ++ ' ' :: rest)).map Taken.pair = none := by
    rw [chars]
    exact call?_of_head dot word _
  unfold predicated
  rw [start, noCall, noCall, comparison?_symbol]
  rfl

theorem predicate_compare {left right : Operand} (op : Comparison) {rest : List Char}
    (builtLeft : left.Built) (builtRight : right.Built) (closes : Closes rest) :
    Told (compare left op right).Plain (compare left op right) (skipSpace rest) Halts
      (predicate ((compare left op right).write ++ rest)).result := by
  rw [write_compare, toList_symbol]
  rcases told_operand builtLeft (closes_symbol op (' ' :: (right.write ++ rest))) with
    ⟨plain, read⟩ | ⟨bad, halts⟩
  · rw [predicate_result, read]
    simp only [Option.bind_some]
    rw [predicated_symbol, Operand.skipSpace_write builtRight]
    rcases told_operand builtRight closes with ⟨plain', read⟩ | ⟨bad, halts⟩
    · refine .inl ⟨⟨plain, plain'⟩, ?_⟩
      rw [read]
      rfl
    · refine .inr ⟨fun both => bad both.2, fun read taken => ?_⟩
      obtain ⟨before, inner, rfl⟩ := Option.map_eq_some_iff.1 taken
      exact halts_skipSpace (halts before inner)
  · exact .nothing (fun both => bad both.1) (predicate_of_halts halts)

theorem predicated_includes (list : Operand) (rest : List Char) :
    predicated list ('.' :: (['i', 'n', 'c', 'l', 'u', 'd', 'e', 's'] ++ '(' :: rest)) =
      ((argument? ('(' :: rest)).map Taken.pair).map fun (item, rest) =>
        (includes list item, rest) := by
  have any : (call? "includesAny" ('.' :: (['i', 'n', 'c', 'l', 'u', 'd', 'e', 's'] ++
      '(' :: rest))).map Taken.pair = none := by
    have differ : after? ['i', 'n', 'c', 'l', 'u', 'd', 'e', 's', 'A', 'n', 'y']
        (['i', 'n', 'c', 'l', 'u', 'd', 'e', 's'] ++ '(' :: rest) = none := after?_of_apart rfl rfl
    exact call?_of_after? differ
  have one : (call? "includes" ('.' :: (['i', 'n', 'c', 'l', 'u', 'd', 'e', 's'] ++
      '(' :: rest))).map Taken.pair = (argument? ('(' :: rest)).map Taken.pair :=
    call?_append ['i', 'n', 'c', 'l', 'u', 'd', 'e', 's'] rest
  unfold predicated
  rw [any, one, comparison?_of_head (by decide)]
  simp only [Option.map_none, Option.none_or, Option.bind_none, Option.or_none]

theorem predicate_includes {list item : Operand} (builtList : list.Built) (builtItem : item.Built)
    (rest : List Char) : Told (includes list item).Plain (includes list item) rest Halts
      (predicate ((includes list item).write ++ rest)).result := by
  have closes : Closes ('.' :: (['i', 'n', 'c', 'l', 'u', 'd', 'e', 's'] ++
      '(' :: (item.write ++ ')' :: rest))) := .method _ rfl (by decide)
  rw [write_includes]
  rcases told_choice builtList closes with ⟨plain, read⟩ | ⟨bad, halts⟩
  · rw [predicate_result, read]
    simp only [Option.bind_some]
    rw [skipSpace_cons _ rfl, predicated_includes]
    exact ((told_argument builtItem rest Halts).map (includes list)).congr
      ⟨fun plain' => ⟨plain, plain'⟩, fun both => both.2⟩
  · exact .nothing (fun both => bad both.1) (predicate_of_halts halts)

theorem predicated_includesAny (list : Operand) (rest : List Char) :
    predicated list
        ('.' :: (['i', 'n', 'c', 'l', 'u', 'd', 'e', 's', 'A', 'n', 'y'] ++ '(' :: rest)) =
      ((argument? ('(' :: rest)).map Taken.pair).map fun (items, rest) =>
        (includesAny list items, rest) := by
  have any : (call? "includesAny" ('.' ::
      (['i', 'n', 'c', 'l', 'u', 'd', 'e', 's', 'A', 'n', 'y'] ++ '(' :: rest))).map Taken.pair =
        (argument? ('(' :: rest)).map Taken.pair :=
    call?_append ['i', 'n', 'c', 'l', 'u', 'd', 'e', 's', 'A', 'n', 'y'] rest
  have one : (call? "includes" ('.' ::
      (['i', 'n', 'c', 'l', 'u', 'd', 'e', 's', 'A', 'n', 'y'] ++ '(' :: rest))).map Taken.pair =
        none := by
    have continued : keyword? "includes"
        (['i', 'n', 'c', 'l', 'u', 'd', 'e', 's'] ++ 'A' :: 'n' :: 'y' :: '(' :: rest) = none :=
      keyword?_of_continued ['i', 'n', 'c', 'l', 'u', 'd', 'e', 's'] rfl _
    change (call? "includes" ('.' ::
      (['i', 'n', 'c', 'l', 'u', 'd', 'e', 's'] ++ 'A' :: 'n' :: 'y' :: '(' :: rest))).map
        Taken.pair = none
    rw [call?_pair, mark?_cons, Option.bind_some, continued]
    rfl
  unfold predicated
  rw [any, one, comparison?_of_head (by decide)]
  simp only [Option.map_none, Option.bind_none, Option.or_none]

theorem predicate_includesAny {list items : Operand} (builtList : list.Built)
    (builtItems : items.Built) (rest : List Char) :
    Told (includesAny list items).Plain (includesAny list items) rest Halts
      (predicate ((includesAny list items).write ++ rest)).result := by
  have closes : Closes ('.' :: (['i', 'n', 'c', 'l', 'u', 'd', 'e', 's', 'A', 'n', 'y'] ++
      '(' :: (items.write ++ ')' :: rest))) := .method _ rfl (by decide)
  rw [write_includesAny]
  rcases told_choice builtList closes with ⟨plain, read⟩ | ⟨bad, halts⟩
  · rw [predicate_result, read]
    simp only [Option.bind_some]
    rw [skipSpace_cons _ rfl, predicated_includesAny]
    exact ((told_argument builtItems rest Halts).map (includesAny list)).congr
      ⟨fun plain' => ⟨plain, plain'⟩, fun both => both.2⟩
  · exact .nothing (fun both => bad both.1) (predicate_of_halts halts)

theorem told_test {text : String} {o : Operand} (valid : IsPattern text.toList) (built : o.Built)
    (rest : List Char) : Told (test text o).Plain (test text o) rest Halts
      ((test? ((test text o).write ++ rest)).map Taken.pair) := by
  rw [write_test, test?_pair, testHead?_pattern valid]
  simp only [Option.bind_some]
  rw [Operand.skipSpace_write built]
  exact ((told_operand built (closes_parenthesis rest)).closing?
    (fun _ => mark?_of_halts) Halts).map (test text)

/-! ### Parentheses -/

/-- A value without the spaces after it. -/
def trimmed (read : α × List Char) : α × List Char :=
  (read.1, skipSpace read.2)

theorem Told.trimmed {plain : Prop} {value : α} {rest : List Char} {result : Option (α × List Char)}
    (told : Told plain value rest Halts result) :
    Told plain value (skipSpace rest) Halts (result.map Expression.trimmed) := by
  rcases told with ⟨plain, read⟩ | ⟨bad, halts⟩
  · refine .inl ⟨plain, ?_⟩
    rw [read]
    rfl
  · refine .inr ⟨bad, fun read taken => ?_⟩
    obtain ⟨before, inner, rfl⟩ := Option.map_eq_some_iff.1 taken
    exact halts_skipSpace (halts before inner)

theorem negated?_of_head {c : Char} (visible : isSpace c = false) (sign : '!' ≠ c) (word : 'N' ≠ c)
    (rest : List Char) : (negated? (c :: rest)).map Taken.pair = none := by
  have none : operator? "!" "NOT" (c :: rest) = none := by
    have bySign : ['!'].head?.any (· != c) := by simpa using sign
    have byWord : ['N', 'O', 'T'].head?.any (· != c) := by simpa using word
    exact operator?_of_head visible bySign byWord rest
  rw [negated?_pair, none]
  rfl

theorem test?_of_head {c : Char} (other : c ≠ '/') (rest : List Char) :
    (test? (c :: rest)).map Taken.pair = none := by
  rw [test?_pair, testHead?_of_head other]
  rfl

/-- What starts like an operand is an expression in parentheses or a predicate. -/
theorem unary_of_leading {input : List Char} (start : StartsWith isLeading input) :
    (unary input).result =
      (((enclosed? input).map Taken.pair).or (predicate input).result).map trimmed := by
  rw [unary_result, start.opening.skipSpace_eq, primary_result]
  obtain ⟨c, rest, rfl, leading⟩ := start
  rw [negated?_of_head (isSpace_of_isOpening (isOpening_of_isLeading leading))
    (ne_of_fits leading rfl).symm (ne_of_fits leading rfl).symm,
    test?_of_head (ne_of_fits leading rfl), Option.none_or, Option.none_or]
  rfl

theorem expression_of_unary {input : List Char} (stuck : (unary input).result = none) :
    (expression input).result = none := by
  rw [expression_result, conjunction_result, stuck]
  rfl

theorem enclosed?_of_head {c : Char} (other : c ≠ '(') (rest : List Char) :
    (enclosed? (c :: rest)).map Taken.pair = none := by
  rw [enclosed?_pair, mark?_of_ne other]
  rfl

theorem enclosed?_parenthesis (rest : List Char) :
    (enclosed? ('(' :: rest)).map Taken.pair =
      (expression (skipSpace rest)).result.bind closing? := by
  rw [enclosed?_pair, mark?_cons]
  rfl

/-- No predicate ends with its left operand. -/
theorem predicate_parenthesis {o : Operand} (built : o.Built) (rest : List Char) :
    (predicate (o.write ++ ')' :: rest)).result = none := by
  rcases told_operand built (closes_parenthesis rest) with ⟨_, read⟩ | ⟨_, halts⟩
  · rw [predicate_result, read]
    simp only [Option.bind_some]
    rw [skipSpace_cons rest rfl]
    exact predicated_of_head (by decide) (by decide) _ _
  · exact predicate_of_halts halts

theorem enclosed?_simple {o : Operand} (single : o.isCoalesce = false) (short : o.isLength = false)
    (built : o.Built) (rest : List Char) :
    (enclosed? (choice o ++ rest)).map Taken.pair = none := by
  rw [Operand.choice_of_not_coalesce single]
  obtain ⟨c, chars, start, simple⟩ := Operand.startsWith_simple o single short built
  rw [start]
  exact enclosed?_of_head (ne_of_fits simple rfl) _

/-- The parentheses around an operand enclose no expression. -/
theorem enclosed?_operand {o : Operand} (built : o.Built) {rest : List Char}
    (inner : (enclosed? (o.write ++ ')' :: rest)).map Taken.pair = none) :
    (enclosed? ('(' :: (o.write ++ ')' :: rest))).map Taken.pair = none := by
  have start := (Operand.startsWith_write o built).append (')' :: rest)
  have stuck : (unary (o.write ++ ')' :: rest)).result = none := by
    rw [unary_of_leading start, inner, predicate_parenthesis built]
    rfl
  rw [enclosed?_parenthesis, start.opening.skipSpace_eq, expression_of_unary stuck]
  rfl

/-- The parentheses that an operand starts with enclose no expression. -/
theorem enclosed?_choice : ∀ o : Operand, o.Built → ∀ rest : List Char,
    (enclosed? (choice o ++ rest)).map Taken.pair = none
  | .text _, built, rest | .integer _, built, rest | .number _, built, rest | .null, built, rest
  | .list _, built, rest | .own _, built, rest | .first .., built, rest | .labels _, built, rest
  | .all _, built, rest | .annotators _, built, rest => enclosed?_simple rfl rfl built rest
  | .length inner, built, rest => by
      change (enclosed? ((Operand.length inner).write ++ rest)).map Taken.pair = none
      rw [Operand.write_length]
      exact enclosed?_choice inner built _
  | .coalesce [], built, _ => absurd built.1 (by decide)
  | .coalesce (item :: items), built, rest => by
      rw [Operand.choice_coalesce]
      apply @enclosed?_operand (.coalesce (item :: items)) built
      change (enclosed? (Operand.writeChoices (item :: items) ++ ')' :: rest)).map Taken.pair = none
      rw [Operand.writeChoices_cons, List.append_assoc]
      exact enclosed?_choice item built.2.1 _

theorem enclosed?_write : ∀ o : Operand, o.Built → ∀ rest : List Char,
    (enclosed? (o.write ++ rest)).map Taken.pair = none
  | .coalesce [], built, _ => absurd built.1 (by decide)
  | .coalesce (item :: items), built, rest => by
      change (enclosed? (Operand.writeChoices (item :: items) ++ rest)).map Taken.pair = none
      rw [Operand.writeChoices_cons, List.append_assoc]
      exact enclosed?_choice item built.2.1 _
  | .text _, built, rest | .integer _, built, rest | .number _, built, rest | .null, built, rest
  | .list _, built, rest | .own _, built, rest | .first .., built, rest | .labels _, built, rest
  | .all _, built, rest | .annotators _, built, rest | .length _, built, rest =>
      enclosed?_choice _ built rest

theorem not_closing?_of_head {c : Char} (visible : isSpace c = false) (other : c ≠ ')')
    (value : Operand) (rest : List Char) : closing? (value, c :: rest) = none := by
  unfold closing?
  rw [skipSpace_cons rest visible, mark?_of_ne other]
  rfl

theorem not_closed {o : Operand} {input : List Char} {rest : List Char}
    (told : Told o.Plain o rest Halts (operand input).result) (unclosed : closing? (o, rest) = none) :
    (operand input).result.bind closing? = none := by
  rcases told with ⟨_, read⟩ | ⟨_, halts⟩
  · rw [read]
    exact unclosed
  · cases taken : (operand input).result with
    | none => rfl
    | some read =>
        simp only [Option.bind_some, closing?, mark?_of_halts (halts read taken), Option.map_none]

theorem not_closed_enclosed {e : Expression} (start : StartsWith isOpening e.write)
    (unclosed : ∀ rest, (operand (e.write ++ rest)).result.bind closing? = none) (enclose : Bool)
    (rest : List Char) :
    (operand (enclosed enclose e.write ++ rest)).result.bind closing? = none := by
  cases enclose with
  | false => exact unclosed rest
  | true =>
      rw [enclosed_true, operand_of_atom]
      · rfl
      · rw [atom_parenthesis, (start.append _).skipSpace_eq]
        exact unclosed _

/-- The parentheses around an expression enclose no operand. -/
theorem not_closed_write : ∀ e : Expression, e.Built → ∀ rest : List Char,
    (operand (e.write ++ rest)).result.bind closing? = none
  | .or [], built, _ => absurd built.1 (by decide)
  | .or (item :: items), built, rest => by
      change (operand (writeAlternatives (item :: items) ++ rest)).result.bind closing? = none
      rw [writeAlternatives_cons, List.append_assoc]
      exact not_closed_enclosed (startsWith_write item built.2.1)
        (not_closed_write item built.2.1) _ _
  | .and [], built, _ => absurd built.1 (by decide)
  | .and (item :: items), built, rest => by
      change (operand (writeConjuncts (item :: items) ++ rest)).result.bind closing? = none
      rw [writeConjuncts_cons, List.append_assoc]
      exact not_closed_enclosed (startsWith_write item built.2.1)
        (not_closed_write item built.2.1) _ _
  | .not inner, _, rest => by
      change (operand ('!' :: (negand inner ++ rest))).result.bind closing? = none
      rw [operand_of_mark (by decide) (by decide) (by decide)]
      rfl
  | .compare left op right, built, rest => by
      rw [write_compare, toList_symbol]
      refine not_closed (told_operand built.1 (closes_symbol op _)) ?_
      obtain ⟨c, more, chars, visible, other⟩ := head_symbolChars op
      have mark : c ≠ ')' := by
        rintro rfl
        exact other (by decide)
      rw [chars]
      exact not_closing?_of_head visible mark left _
  | .test text o, _, rest => by
      rw [write_test]
      change (operand ('/' :: _)).result.bind closing? = none
      rw [operand_of_mark (by decide) (by decide) (by decide)]
      rfl
  | .includes list item, built, rest => by
      rw [write_includes]
      have closes : Closes ('.' :: (['i', 'n', 'c', 'l', 'u', 'd', 'e', 's'] ++
          '(' :: (item.write ++ ')' :: rest))) := .method _ rfl (by decide)
      exact not_closed (told_choice built.1 closes) (not_closing?_of_head rfl (by decide) _ _)
  | .includesAny list items, built, rest => by
      rw [write_includesAny]
      have closes : Closes ('.' :: (['i', 'n', 'c', 'l', 'u', 'd', 'e', 's', 'A', 'n', 'y'] ++
          '(' :: (items.write ++ ')' :: rest))) := .method _ rfl (by decide)
      exact not_closed (told_choice built.1 closes) (not_closing?_of_head rfl (by decide) _ _)

end Expression

end CorpusQuery
