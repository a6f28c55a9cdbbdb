import CorpusQuery.Proofs.Expression.Texts

namespace CorpusQuery

/-! The canonical text of an operand reads back if the operand is plain.  If it is
not, reading takes nothing, or it leaves a length or a choice. -/

open Expression

/-! ### Readers at a mark -/

namespace Expression

theorem atom_of_leaf? {input : List Char} {read : Operand × List Char}
    (leaf : leaf? input = some read) : (atom input).result = some read := by
  rw [atom_result, leaf]
  rfl

theorem list_of_head {c : Char} (other : c ≠ '[') (rest : List Char) :
    (list (c :: rest)).result = none := by
  rw [list_result, mark?_of_ne other]
  rfl

theorem atom_bracket (rest : List Char) :
    (atom ('[' :: rest)).result =
      (list ('[' :: rest)).result.map fun (items, rest) => (Operand.list items, rest) := by
  rw [atom_result, leaf?_of_mark (by decide), Option.none_or,
    mark?_of_ne (show '[' ≠ '(' by decide), Option.bind_none, Option.or_none]

theorem atom_parenthesis (rest : List Char) :
    (atom ('(' :: rest)).result = (operand (skipSpace rest)).result.bind closing? := by
  rw [atom_result, leaf?_of_mark (by decide), Option.none_or, list_of_head (by decide),
    mark?_cons]
  rfl

theorem atom_of_mark {c : Char} (mark : c ∈ marks) (list : c ≠ '[') (group : c ≠ '(')
    (rest : List Char) : (atom (c :: rest)).result = none := by
  rw [atom_result, leaf?_of_mark mark, list_of_head list, mark?_of_ne group]
  rfl

theorem operand_of_atom {input : List Char} (stuck : (atom input).result = none) :
    (operand input).result = none := by
  rw [operand_result, postfixed_result, stuck]
  rfl

theorem operand_of_mark {c : Char} (mark : c ∈ marks) (list : c ≠ '[') (group : c ≠ '(')
    (rest : List Char) : (operand (c :: rest)).result = none :=
  operand_of_atom (atom_of_mark mark list group rest)

theorem lengthened_of_not_length {read : Operand × List Char}
    (stop : (mark? '.' read.2).bind (keyword? "length") = none) : lengthened read = read := by
  unfold lengthened
  rw [stop]

theorem lengthened_length (inner : Operand) {rest : List Char}
    (stop : rest.head?.any isIdentifierChar = false) :
    lengthened (inner, '.' :: (['l', 'e', 'n', 'g', 't', 'h'] ++ rest)) = (.length inner, rest) := by
  have word : keyword? "length" (['l', 'e', 'n', 'g', 't', 'h'] ++ rest) = some rest :=
    keyword?_append ['l', 'e', 'n', 'g', 't', 'h'] stop
  unfold lengthened
  rw [mark?_cons, Option.bind_some, word]

theorem moreChoices_of_no_choice {rest : List Char} (stop : operator? "??" "??" rest = none) :
    (moreChoices rest).pair = ([], rest) := by
  rw [moreChoices_pair, stop]
  rfl

theorem closes_parenthesis (rest : List Char) : Closes (')' :: rest) :=
  .mark rest rfl (by decide) rfl (by decide)

theorem closing?_parenthesis (value : α) (rest : List Char) :
    closing? (value, ')' :: rest) = some (value, rest) := by
  unfold closing?
  rw [skipSpace_cons rest rfl, mark?_cons]
  rfl

/-- A value in parentheses; where reading stops, none is closed. -/
theorem Told.closing? {plain : Prop} {value : α} {rest : List Char} {stops : List Char → Prop}
    {result : Option (α × List Char)} (told : Told plain value (')' :: rest) stops result)
    (stuck : ∀ place, stops place → mark? ')' (skipSpace place) = none)
    (never : List Char → Prop) :
    Told plain value rest never (result.bind Expression.closing?) := by
  rcases told with ⟨plain, read⟩ | ⟨bad, halts⟩
  · refine .inl ⟨plain, ?_⟩
    rw [read, Option.bind_some, closing?_parenthesis]
  · refine .inr ⟨bad, fun read taken => ?_⟩
    obtain ⟨before, inner, closed⟩ := Option.bind_eq_some_iff.1 taken
    unfold Expression.closing? at closed
    rw [stuck _ (halts before inner)] at closed
    simp at closed

end Expression

namespace Operand

theorem skipSpace_write {o : Operand} (built : o.Built) (rest : List Char) :
    skipSpace (o.write ++ rest) = o.write ++ rest :=
  ((startsWith_write o built).append rest).opening.skipSpace_eq

theorem skipSpace_choice {o : Operand} (built : o.Built) (rest : List Char) :
    skipSpace (choice o ++ rest) = choice o ++ rest :=
  ((startsWith_choice (startsWith_write o built)).append rest).opening.skipSpace_eq

/-! ### Places where reading stops -/

/-- A further length. -/
def Measured (rest : List Char) : Prop :=
  ∃ more, rest = '.' :: 'l' :: more

/-- A further length or a choice. -/
def Halts (rest : List Char) : Prop :=
  (∃ more, skipSpace rest = '.' :: 'l' :: more) ∨ ∃ more, skipSpace rest = '?' :: more

theorem Measured.halts {rest : List Char} (measured : Measured rest) : Halts rest := by
  obtain ⟨more, rfl⟩ := measured
  exact .inl ⟨more, skipSpace_cons _ rfl⟩

theorem Measured.noChoice {rest : List Char} (measured : Measured rest) :
    operator? "??" "??" rest = none := by
  obtain ⟨more, rfl⟩ := measured
  have other : ['?', '?'].head?.any (· != '.') := rfl
  exact operator?_of_head rfl other other _

theorem Halts.mark?_eq_none {rest : List Char} (halts : Halts rest) {mark : Char}
    (dot : '.' ≠ mark) (choice : '?' ≠ mark) : mark? mark (skipSpace rest) = none := by
  obtain ⟨more, same⟩ | ⟨more, same⟩ := halts
  · rw [same]
    exact mark?_of_ne dot _
  · rw [same]
    exact mark?_of_ne choice _

/-! ### One operand -/

/-- What reading the canonical text of an operand tells, wherever an operand can
stand. -/
structure Reads (o : Operand) : Prop where
  atomic : o.isLength = false → ∀ rest, Ends rest →
    Told o.Plain o rest (fun _ => False) (atom (choice o ++ rest)).result
  postfixed : ∀ rest, Ends rest →
    (o.isLength = false → (mark? '.' rest).bind (keyword? "length") = none) →
    Told o.Plain o rest Measured (postfixed (choice o ++ rest)).result
  whole : ∀ rest, Closes rest → Told o.Plain o rest Halts (operand (o.write ++ rest)).result

theorem told_postfixed {o : Operand} {input rest : List Char}
    (told : Told o.Plain o rest (fun _ => False) (atom input).result)
    (stop : (mark? '.' rest).bind (keyword? "length") = none) :
    Told o.Plain o rest Measured (postfixed input).result := by
  rw [postfixed_result]
  rcases told with ⟨plain, read⟩ | ⟨bad, halts⟩
  · refine .inl ⟨plain, ?_⟩
    rw [read, Option.map_some, lengthened_of_not_length stop]
  · refine .inr ⟨bad, fun read taken => ?_⟩
    obtain ⟨before, inner, -⟩ := Option.map_eq_some_iff.1 taken
    exact (halts before inner).elim

/-- An operand that no choice follows. -/
theorem told_operand_of_postfixed {o : Operand} {input rest : List Char}
    (told : Told o.Plain o rest Measured (postfixed input).result)
    (stop : operator? "??" "??" rest = none) :
    Told o.Plain o rest Halts (operand input).result := by
  rw [operand_result]
  rcases told with ⟨plain, read⟩ | ⟨bad, halts⟩
  · refine .inl ⟨plain, ?_⟩
    rw [read]
    simp only [Option.map_some, moreChoices_of_no_choice stop]
    rfl
  · refine .inr ⟨bad, fun read taken => ?_⟩
    obtain ⟨before, inner, rfl⟩ := Option.map_eq_some_iff.1 taken
    have measured := halts before inner
    simp only [gathered_snd, moreChoices_of_no_choice measured.noChoice]
    exact measured.halts

namespace Reads

theorem of_atomic {o : Operand} (single : o.isCoalesce = false) (short : o.isLength = false)
    (atomic : ∀ rest, Ends rest →
      Told o.Plain o rest (fun _ => False) (atom (o.write ++ rest)).result) : Reads o := by
  have text := choice_of_not_coalesce single
  refine ⟨fun _ rest ends => ?_, fun rest ends stop => ?_, fun rest closes => ?_⟩
  · rw [text]
    exact atomic rest ends
  · rw [text]
    exact told_postfixed (atomic rest ends) (stop short)
  · exact told_operand_of_postfixed
      (told_postfixed (atomic rest closes.toEnds) closes.notLength) closes.noChoice

theorem of_leaf? {o : Operand} (single : o.isCoalesce = false) (short : o.isLength = false)
    (plain : o.Plain) (leaf : ∀ rest, Ends rest → leaf? (o.write ++ rest) = some (o, rest)) :
    Reads o :=
  of_atomic single short fun rest ends => .inl ⟨plain, atom_of_leaf? (leaf rest ends)⟩

/-- An infinite value has a text, but no number is written like that. -/
theorem infinite (negative : Bool) : Reads (.number (.infinite negative)) := by
  refine of_atomic rfl rfl fun rest ends => ?_
  have leaf : leaf? (numeral (.infinite negative) ++ rest) = none := leaf?_infinite negative ends.word
  obtain ⟨c, chars, start, head⟩ : ∃ c chars, numeral (.infinite negative) = c :: chars ∧
      c ∈ ['i', '-'] := by
    cases negative with
    | false => exact ⟨'i', _, String.toList_ofList, by decide⟩
    | true => exact ⟨'-', _, String.toList_append, by decide⟩
  have plain : ∀ c ∈ ['i', '-'], c ≠ '[' ∧ c ≠ '(' := by decide
  obtain ⟨bracket, parenthesis⟩ := plain c head
  have stuck : (atom (numeral (.infinite negative) ++ rest)).result = none := by
    rw [atom_result, leaf, start, List.cons_append, list_of_head bracket, mark?_of_ne parenthesis]
    rfl
  have infinite : ¬Plain (.number (.infinite negative)) := fun finite => Bool.noConfusion finite
  exact .nothing infinite stuck

/-! ### Lists -/

theorem closes_comma (item : Operand) (behind : List Char) :
    Closes ([',', ' '] ++ item.write ++ behind) :=
  .mark _ rfl (by decide) rfl (by decide)

/-- A comma and the item after it. -/
theorem next_item {item : Operand} (built : item.Built) (behind : List Char) :
    ((mark? ',' (skipSpace ([',', ' '] ++ item.write ++ behind))).bind fun rest =>
      (operand (skipSpace rest)).result) = (operand (item.write ++ behind)).result := by
  have start : skipSpace ([',', ' '] ++ item.write ++ behind) =
      ',' :: ' ' :: (item.write ++ behind) := by
    simp only [List.cons_append, List.nil_append]
    exact skipSpace_cons _ rfl
  rw [start, mark?_cons, Option.bind_some, skipSpace_space, skipSpace_write built]

/-- A place where no list ends. -/
def Unclosed (place : List Char) : Prop :=
  mark? ']' (skipSpace place) = none

theorem told_items {first : Operand} {items : List Operand} (builtFirst : first.Built)
    (built : ∀ item ∈ items, item.Built) (readsFirst : Reads first)
    (reads : ∀ item ∈ items, Reads item) (rest : List Char) :
    Told (∀ item ∈ first :: items, item.Plain) (first :: items) (']' :: rest) Unclosed
      (some (followed (writeItems (first :: items) ++ ']' :: rest)
        (operand (writeItems (first :: items) ++ ']' :: rest)).result
        fun rest => (moreItems rest).pair)) := by
  have done : ((mark? ',' (skipSpace (']' :: rest))).bind fun behind =>
      (operand (skipSpace behind)).result) = none := by
    rw [skipSpace_cons rest rfl, mark?_of_ne (by decide)]
    rfl
  have last : Closes (']' :: rest) := .mark rest rfl (by decide) rfl (by decide)
  have ends (place : List Char) (halts : Halts place) :
      ((mark? ',' (skipSpace place)).bind fun behind => (operand (skipSpace behind)).result) =
        none := by
    rw [halts.mark?_eq_none (by decide) (by decide)]
    rfl
  have implied (place : List Char) (halts : Halts place) : Unclosed place :=
    halts.mark?_eq_none (by decide) (by decide)
  have start := (startsWith_write first builtFirst).append
    (items.flatMap (fun item => [',', ' '] ++ item.write) ++ ']' :: rest)
  rw [writeItems_cons, List.append_assoc]
  refine told_followed (readsFirst.whole _ (follows_flatMap last items fun item _ =>
    closes_comma item)) ?_ ?_ (fun place halts => ?_) implied
  · refine @told_more Operand (fun rest => (moreItems rest).pair) _ _ id Closes Plain Halts Unclosed
      items _ moreItems_pair done last ends implied (fun item _ => closes_comma item)
      (fun item _ behind => mark?_of_ne (show ',' ≠ ']' by decide) _) fun item mem behind closes => ?_
    simp only [id_eq, next_item (built item mem)]
    exact (reads item mem).whole behind closes
  · unfold Unclosed
    rw [start.opening.skipSpace_eq]
    exact start.mark?_eq_none rfl
  · rw [moreItems_pair, ends place halts]
    rfl

theorem list {items : List Operand} (built : BuiltAll items) (reads : ∀ item ∈ items, Reads item) :
    Reads (.list items) := by
  refine of_atomic rfl rfl fun rest _ => ?_
  rw [write_list, atom_bracket, list_result, mark?_cons, Option.bind_some]
  cases items with
  | nil =>
      refine .inl ⟨trivial, ?_⟩
      have visible : isSpace ']' = false := rfl
      have stuck : (operand (skipSpace (writeItems [] ++ ']' :: rest))).result = none := by
        change (operand (skipSpace (']' :: rest))).result = none
        rw [skipSpace_cons rest visible]
        exact operand_of_mark (by decide) (by decide) (by decide) rest
      rw [stuck]
      simp only [followed, writeItems, List.nil_append, skipSpace_cons rest visible, mark?_cons]
      rfl
  | cons item items =>
      rw [List.forall_mem_cons] at reads
      have start := (startsWith_write item built.1).append
        (items.flatMap (fun item => [',', ' '] ++ item.write) ++ ']' :: rest)
      have same : skipSpace (writeItems (item :: items) ++ ']' :: rest) =
          writeItems (item :: items) ++ ']' :: rest := by
        rw [writeItems_cons, List.append_assoc]
        exact start.opening.skipSpace_eq
      rw [same]
      rcases told_items built.1 (builtAll_iff.1 built.2) reads.1 reads.2 rest with
        ⟨plain, read⟩ | ⟨bad, halts⟩
      · refine .inl ⟨plainAll_iff.2 plain, ?_⟩
        rw [Option.some.inj read]
        simp only [skipSpace_cons rest (show isSpace ']' = false from rfl), mark?_cons]
        rfl
      · have unclosed := halts _ rfl
        unfold Unclosed at unclosed
        refine .nothing (fun plain => bad (plainAll_iff.1 plain)) ?_
        simp only [unclosed]
        rfl

/-! ### Lengths and choices -/

theorem length {inner : Operand} (reads : Reads inner) : Reads (.length inner) := by
  have postfixed (rest : List Char) (ends : Ends rest) :
      Told (Plain (.length inner)) (.length inner) rest Measured
        (Expression.postfixed ((Operand.length inner).write ++ rest)).result := by
    have dot : Ends ('.' :: (['l', 'e', 'n', 'g', 't', 'h'] ++ rest)) := .method _ rfl
    rw [write_length]
    cases kind : inner.isLength with
    | false =>
        rw [postfixed_result]
        rcases reads.atomic kind _ dot with ⟨plain, read⟩ | ⟨bad, halts⟩
        · refine .inl ⟨⟨kind, plain⟩, ?_⟩
          rw [read, Option.map_some, lengthened_length inner ends.word]
        · refine .inr ⟨fun plain => bad plain.2, fun read taken => ?_⟩
          obtain ⟨before, taken, -⟩ := Option.map_eq_some_iff.1 taken
          exact (halts before taken).elim
    | true =>
        have double : ¬Plain (.length inner) := fun plain =>
          Bool.noConfusion (plain.1.symm.trans kind)
        refine .inr ⟨double, fun read taken => ?_⟩
        rcases reads.postfixed _ dot (fun short => Bool.noConfusion (short.symm.trans kind)) with
          ⟨_, read'⟩ | ⟨_, halts⟩
        · rw [read'] at taken
          cases taken
          exact ⟨_, rfl⟩
        · exact halts read taken
  exact ⟨nofun, fun rest ends _ => postfixed rest ends, fun rest closes =>
    told_operand_of_postfixed (postfixed rest closes.toEnds) closes.noChoice⟩

theorem bounds_choice (item : Operand) (behind : List Char) :
    Bounds ([' ', '?', '?', ' '] ++ choice item ++ behind) :=
  .cons _ rfl (by decide)

/-- A choice and the operand after it. -/
theorem next_choice {item : Operand} (built : item.Built) (behind : List Char) :
    ((operator? "??" "??" ([' ', '?', '?', ' '] ++ choice item ++ behind)).bind fun rest =>
      (Expression.postfixed rest).result) =
        (Expression.postfixed (choice item ++ behind)).result := by
  have symbol : operator? "??" "??" (['?', '?'] ++ ' ' :: (choice item ++ behind)) =
      some (skipSpace (' ' :: (choice item ++ behind))) := @operator?_symbol ['?', '?'] rfl "??" _
  have start : operator? "??" "??" ([' ', '?', '?', ' '] ++ choice item ++ behind) =
      operator? "??" "??" (['?', '?'] ++ ' ' :: (choice item ++ behind)) := by
    rw [← operator?_skipSpace]
    rfl
  rw [start, symbol, Option.bind_some, skipSpace_space, skipSpace_choice built]

theorem told_choices {first : Operand} {items : List Operand} (several : items ≠ [])
    (built : ∀ item ∈ items, item.Built) (readsFirst : Reads first)
    (reads : ∀ item ∈ items, Reads item) {rest : List Char} (closes : Closes rest) :
    Told (∀ item ∈ first :: items, item.Plain) (.coalesce (first :: items)) rest Halts
      (operand (writeChoices (first :: items) ++ rest)).result := by
  have done : ((operator? "??" "??" rest).bind fun behind =>
      (Expression.postfixed behind).result) = none := by
    rw [closes.noChoice]
    rfl
  have ends (place : List Char) (measured : Measured place) :
      ((operator? "??" "??" place).bind fun behind => (Expression.postfixed behind).result) =
        none := by
    rw [measured.noChoice]
    rfl
  have implied (place : List Char) (measured : Measured place) : Halts place := measured.halts
  have behind := follows_flatMap closes.toBounds items fun item _ => bounds_choice item
  rw [writeChoices_cons, List.append_assoc, operand_result]
  refine told_gathered .coalesce (fun rest => (moreChoices rest).pair) several
    (readsFirst.postfixed _ behind.toEnds fun _ => behind.notLength) ?_
    (fun place measured => moreChoices_of_no_choice measured.noChoice) implied
  refine @told_more Operand (fun rest => (moreChoices rest).pair) _ _ id Bounds Plain Measured Halts
    items _ moreChoices_pair done closes.toBounds ends implied (fun item _ => bounds_choice item)
    (fun item _ behind => .inr ⟨_, rfl⟩) fun item mem behind bounds => ?_
  simp only [id_eq, next_choice (built item mem)]
  exact (reads item mem).postfixed behind bounds.toEnds fun _ => bounds.notLength

theorem coalesce {items : List Operand} (several : 2 ≤ items.length) (built : BuiltAll items)
    (reads : ∀ item ∈ items, Reads item) : Reads (.coalesce items) := by
  have whole (rest : List Char) (closes : Closes rest) : Told (PlainAll items) (.coalesce items) rest
      Halts (operand (writeChoices items ++ rest)).result := by
    match items with
    | [] | [_] => simp at several
    | item :: second :: items =>
        rw [List.forall_mem_cons] at reads
        exact (told_choices (List.cons_ne_nil second items) (builtAll_iff.1 built.2) reads.1 reads.2
          closes).congr plainAll_iff.symm
  have atomic (rest : List Char) : Told (PlainAll items) (.coalesce items) rest (fun _ => False)
      (atom (choice (.coalesce items) ++ rest)).result := by
    have start := startsWith_writeChoices items several built
    rw [choice_coalesce, atom_parenthesis, (start.append _).opening.skipSpace_eq]
    exact (whole _ (closes_parenthesis rest)).closing?
      (fun place halts => halts.mark?_eq_none (by decide) (by decide)) _
  exact ⟨fun _ rest _ => atomic rest, fun rest _ stop => told_postfixed (atomic rest) (stop rfl),
    whole⟩

end Reads

mutual

theorem reads : ∀ o : Operand, o.Built → Reads o
  | .text value, _ => .of_leaf? rfl rfl trivial fun rest _ => leaf?_quoted value rest
  | .integer value, _ => .of_leaf? rfl rfl trivial fun _ ends =>
      leaf?_of_number? (number?_integer value ends.digit ends.point)
  | .number (.finite ..), _ => .of_leaf? rfl rfl rfl fun _ ends =>
      leaf?_of_number? (number?_numeral rfl ends.digit)
  | .number (.infinite negative), _ => .infinite negative
  | .number .nan, built => absurd rfl built
  | .null, _ => .of_leaf? rfl rfl trivial fun rest ends => by
      rw [write_null]
      exact leaf?_null ends.word
  | .list items, built => .list built (readsAll items built)
  | .own attr, _ => .of_leaf? rfl rfl trivial fun rest ends => by
      change leaf? (attr.name.toList ++ rest) = _
      rw [toList_name]
      exact leaf?_own attr ends.word
  | .first layer attr, _ => .of_leaf? rfl rfl trivial fun rest ends => by
      rw [write_first]
      exact leaf?_first layer attr ends.word
  | .labels layer, _ => .of_leaf? rfl rfl trivial fun rest _ => by
      rw [write_labels]
      exact leaf?_labels layer rest
  | .all layer, _ => .of_leaf? rfl rfl trivial fun rest _ => by
      rw [write_all]
      exact leaf?_all layer rest
  | .annotators layer, _ => .of_leaf? rfl rfl trivial fun rest _ => by
      rw [write_annotators]
      exact leaf?_annotators layer rest
  | .length inner, built => .length (reads inner built)
  | .coalesce items, built => .coalesce built.1 built.2 (readsAll items built.2)

theorem readsAll : ∀ items : List Operand, BuiltAll items → ∀ item ∈ items, Reads item
  | [], _ => nofun
  | item :: items, built => by
      rw [List.forall_mem_cons]
      exact ⟨reads item built.1, readsAll items built.2⟩

end

end Operand

end CorpusQuery
