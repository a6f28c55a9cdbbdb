import CorpusQuery.Proofs.Expression.Lexemes
import CorpusQuery.Proofs.Expression.Scan
import Mathlib.Data.List.DropRight

namespace CorpusQuery.Expression

/-! What stands before and after the parts of a canonical text, and what a repetition
makes of a text with separators. -/

/-! ### Heads -/

/-- The characters that canonical operands without other operands in them, and lists,
start with. -/
def isSimple (c : Char) : Bool :=
  c.isDigit || (letters ++ ['\'', '-', '[']).contains c

/-- The characters that canonical operands start with. -/
def isLeading (c : Char) : Bool :=
  c.isDigit || (letters ++ ['\'', '-', '[', '(']).contains c

/-- The characters that canonical expressions start with. -/
def isOpening (c : Char) : Bool :=
  c.isDigit || (letters ++ ['\'', '-', '[', '(', '!', '/']).contains c

theorem isLeading_of_isSimple {c : Char} (simple : isSimple c) : isLeading c := by
  simp only [isSimple, isLeading, Bool.or_eq_true, List.contains_iff_mem] at simple ⊢
  rcases simple with digit | listed
  · exact .inl digit
  · have wider : ∀ c ∈ letters ++ ['\'', '-', '['], c ∈ letters ++ ['\'', '-', '[', '('] := by decide
    exact .inr (wider c listed)

theorem isOpening_of_isLeading {c : Char} (leading : isLeading c) : isOpening c := by
  simp only [isLeading, isOpening, Bool.or_eq_true, List.contains_iff_mem] at leading ⊢
  rcases leading with digit | listed
  · exact .inl digit
  · have wider : ∀ c ∈ letters ++ ['\'', '-', '[', '('],
        c ∈ letters ++ ['\'', '-', '[', '(', '!', '/'] := by decide
    exact .inr (wider c listed)

theorem ne_of_fits {kind : Char → Bool} {c d : Char} (fits : kind c) (other : kind d = false) :
    c ≠ d := by
  rintro rfl
  exact absurd fits (Bool.eq_false_iff.1 other)

theorem isBlank_of_isOpening {c : Char} (opening : isOpening c) : Text.isBlank c = false := by
  simp only [isOpening, Bool.or_eq_true, List.contains_iff_mem] at opening
  rcases opening with digit | listed
  · simp only [Char.isDigit, ge_iff_le, Bool.and_eq_true, decide_eq_true_eq,
      UInt32.le_iff_toNat_le] at digit
    have lower : 48 ≤ c.toNat := digit.1
    have upper : c.toNat ≤ 57 := digit.2
    simp only [Text.isBlank, Bool.or_eq_false_iff, Bool.and_eq_false_iff, decide_eq_false_iff_not,
      beq_eq_false_iff_ne]
    omega
  · have visible : ∀ c ∈ letters ++ ['\'', '-', '[', '(', '!', '/'], Text.isBlank c = false := by
      decide
    exact visible c listed

theorem isSpace_of_isOpening {c : Char} (opening : isOpening c) : isSpace c = false := by
  have other (d : Char) (closed : isOpening d = false) : (c == d) = false :=
    beq_eq_false_iff_ne.2 (ne_of_fits opening closed)
  simp only [isSpace, other ' ' rfl, other '\t' rfl, other '\r' rfl, other '\n' rfl, Bool.or_false]

/-- A text that starts with a character of some kind. -/
def StartsWith (kind : Char → Bool) (chars : List Char) : Prop :=
  ∃ c rest, chars = c :: rest ∧ kind c

namespace StartsWith

theorem append {kind : Char → Bool} {chars : List Char} (start : StartsWith kind chars)
    (rest : List Char) : StartsWith kind (chars ++ rest) := by
  obtain ⟨c, tail, rfl, fits⟩ := start
  exact ⟨c, tail ++ rest, rfl, fits⟩

theorem leading {chars : List Char} (start : StartsWith isSimple chars) :
    StartsWith isLeading chars := by
  obtain ⟨c, tail, rfl, fits⟩ := start
  exact ⟨c, tail, rfl, isLeading_of_isSimple fits⟩

theorem opening {chars : List Char} (start : StartsWith isLeading chars) :
    StartsWith isOpening chars := by
  obtain ⟨c, tail, rfl, fits⟩ := start
  exact ⟨c, tail, rfl, isOpening_of_isLeading fits⟩

theorem skipSpace_eq {chars : List Char} (start : StartsWith isOpening chars) :
    skipSpace chars = chars := by
  obtain ⟨c, tail, rfl, fits⟩ := start
  exact skipSpace_cons tail (isSpace_of_isOpening fits)

theorem mark?_eq_none {kind : Char → Bool} {mark : Char} {chars : List Char}
    (start : StartsWith kind chars) (other : kind mark = false) : mark? mark chars = none := by
  obtain ⟨c, tail, rfl, fits⟩ := start
  exact if_neg (ne_of_fits fits other)

end StartsWith

/-! ### Separators -/

theorem skipSpace_skipSpace (input : List Char) : skipSpace (skipSpace input) = skipSpace input :=
  List.dropWhile_idempotent isSpace input

theorem skipSpace_space (rest : List Char) : skipSpace (' ' :: rest) = skipSpace rest := rfl

theorem mark?_cons (c : Char) (rest : List Char) : mark? c (c :: rest) = some rest :=
  if_pos rfl

theorem mark?_of_ne {mark c : Char} (different : c ≠ mark) (rest : List Char) :
    mark? mark (c :: rest) = none :=
  if_neg different

theorem operator?_skipSpace (symbol word : String) (input : List Char) :
    operator? symbol word (skipSpace input) = operator? symbol word input := by
  unfold operator?
  rw [skipSpace_skipSpace]

theorem operator?_eq_none {symbol word input : List Char}
    (bySymbol : after? symbol (skipSpace input) = none)
    (byWord : after? word (skipSpace input) = none) :
    operator? (String.ofList symbol) (String.ofList word) input = none := by
  unfold operator?
  rw [keyword?_of_after? byWord, String.toList_ofList, bySymbol]
  rfl

theorem operator?_of_head {symbol word : List Char} {c : Char} (visible : isSpace c = false)
    (bySymbol : symbol.head?.any (· != c)) (byWord : word.head?.any (· != c)) (rest : List Char) :
    operator? (String.ofList symbol) (String.ofList word) (c :: rest) = none := by
  apply operator?_eq_none
  · rw [skipSpace_cons rest visible]
    exact after?_of_head bySymbol rest
  · rw [skipSpace_cons rest visible]
    exact after?_of_head byWord rest

theorem operator?_symbol {symbol : List Char} (visible : symbol.head?.any fun c => !isSpace c)
    (word : String) (rest : List Char) :
    operator? (String.ofList symbol) word (symbol ++ rest) = some (skipSpace rest) := by
  have start : skipSpace (symbol ++ rest) = symbol ++ rest := by
    cases symbol with
    | nil => simp at visible
    | cons c symbol => exact skipSpace_cons _ (by simpa using visible)
  unfold operator?
  rw [start, String.toList_ofList, after?_append]
  rfl

/-! ### What can follow -/

/-- What ends an operand between `??`: no length is taken of it. -/
structure Bounds (rest : List Char) : Prop extends Ends rest where
  notLength : (mark? '.' rest).bind (keyword? "length") = none

/-- What ends an operand: there is no further choice either. -/
structure Closes (rest : List Char) : Prop extends Bounds rest where
  noChoice : operator? "??" "??" rest = none

theorem Bounds.cons {c : Char} (rest : List Char) (plain : isIdentifierChar c = false)
    (dot : c ≠ '.') : Bounds (c :: rest) where
  toEnds := .cons rest plain dot
  notLength := by
    rw [mark?_of_ne dot]
    rfl

namespace Closes

theorem nil : Closes [] where
  toEnds := .nil
  notLength := rfl
  noChoice := by
    have none : after? ['?', '?'] (skipSpace []) = none := rfl
    exact operator?_eq_none none none

theorem mark {c : Char} (rest : List Char) (plain : isIdentifierChar c = false) (dot : c ≠ '.')
    (visible : isSpace c = false) (choice : c ≠ '?') : Closes (c :: rest) where
  toBounds := .cons rest plain dot
  noChoice := by
    have other : ['?', '?'].head?.any (· != c) := by simpa using choice.symm
    exact operator?_of_head visible other other rest

theorem spaced {c : Char} (rest : List Char) (visible : isSpace c = false) (choice : c ≠ '?') :
    Closes (' ' :: c :: rest) where
  toBounds := .cons _ rfl (by decide)
  noChoice := by
    have other : ['?', '?'].head?.any (· != c) := by simpa using choice.symm
    rw [← operator?_skipSpace, skipSpace_space, skipSpace_cons rest visible]
    exact operator?_of_head visible other other rest

/-- A method other than the length. -/
theorem method {c : Char} (rest : List Char) (letter : c.isDigit = false) (other : 'l' ≠ c) :
    Closes ('.' :: c :: rest) where
  toEnds := .method rest letter
  notLength := by
    have none : keyword? "length" (c :: rest) = none := by
      have differ : after? ['l', 'e', 'n', 'g', 't', 'h'] (c :: rest) = none :=
        after?_of_head (by simpa using other) rest
      exact keyword?_of_after? differ
    rw [mark?_cons, Option.bind_some, none]
  noChoice := by
    have other : ['?', '?'].head?.any (· != '.') := rfl
    exact operator?_of_head rfl other other _

end Closes

/-! ### What reading tells -/

/-- What reading a canonical text gives: the value and the rest if the value is plain,
otherwise nothing or a place where reading cannot go on. -/
def Told (plain : Prop) (value : α) (rest : List Char) (stops : List Char → Prop)
    (result : Option (α × List Char)) : Prop :=
  (plain ∧ result = some (value, rest)) ∨ (¬plain ∧ ∀ read, result = some read → stops read.2)

theorem Told.map {plain : Prop} {value : α} {rest : List Char} {stops : List Char → Prop}
    {result : Option (α × List Char)} (told : Told plain value rest stops result) (f : α → β) :
    Told plain (f value) rest stops (result.map fun (value, rest) => (f value, rest)) := by
  rcases told with ⟨plain, read⟩ | ⟨bad, halts⟩
  · refine .inl ⟨plain, ?_⟩
    rw [read]
    rfl
  · refine .inr ⟨bad, fun read taken => ?_⟩
    obtain ⟨before, inner, rfl⟩ := Option.map_eq_some_iff.1 taken
    exact halts before inner

theorem Told.congr {plain plain' : Prop} {value : α} {rest : List Char}
    {stops : List Char → Prop} {result : Option (α × List Char)}
    (told : Told plain value rest stops result) (same : plain ↔ plain') :
    Told plain' value rest stops result := by
  rwa [Told, ← same]

theorem Told.nothing {plain : Prop} {value : α} {rest : List Char} {stops : List Char → Prop}
    {result : Option (α × List Char)} (bad : ¬plain) (none : result = none) :
    Told plain value rest stops result := by
  refine .inr ⟨bad, fun read taken => ?_⟩
  rw [none] at taken
  cases taken

/-! ### Repetitions -/

section Repetition

variable {more : List Char → List α × List Char} {next : List Char → Option (α × List Char)}
  {part : α → List Char} {trim : List Char → List Char} {follows : List Char → Prop}
  {plain : α → Prop} {leaves stops : List Char → Prop} {items : List α} {rest : List Char}

theorem follows_flatMap (last : follows rest) (items : List α)
    (inner : ∀ item ∈ items, ∀ behind, follows (part item ++ behind)) :
    follows (items.flatMap part ++ rest) := by
  cases items with
  | nil => exact last
  | cons item items =>
      rw [List.flatMap_cons, List.append_assoc]
      exact inner item (List.mem_cons_self ..) _

/-- An element and those after it.  What the element leaves, the repetition leaves. -/
theorem told_followed {input behind : List Char} {first : α} {begun : Option (α × List Char)}
    (head : Told (plain first) first behind leaves begun)
    (tail : Told (∀ item ∈ items, plain item) items rest stops (some (more behind)))
    (start : stops input) (ends : ∀ place, leaves place → more place = ([], place))
    (implied : ∀ place, leaves place → stops place) :
    Told (∀ item ∈ first :: items, plain item) (first :: items) rest stops
      (some (followed input begun more)) := by
  rcases head with ⟨plainFirst, read⟩ | ⟨bad, halts⟩
  · rw [read]
    rcases tail with ⟨all, further⟩ | ⟨broken, halts⟩
    · refine .inl ⟨List.forall_mem_cons.2 ⟨plainFirst, all⟩, ?_⟩
      simp only [Option.some.injEq] at further
      simp only [followed, further]
    · refine .inr ⟨fun all => broken (List.forall_mem_cons.1 all).2, fun result taken => ?_⟩
      cases taken
      exact halts (more behind) rfl
  · refine .inr ⟨fun all => bad (all first (List.mem_cons_self ..)), fun result taken => ?_⟩
    cases taken
    cases read : begun with
    | none => exact start
    | some read' =>
        have left := halts read' read
        simp only [followed, ends _ left]
        exact implied _ left

/-- A repetition reads all its elements, or stops at one that is not plain. -/
theorem told_more (unfolds : ∀ input, more input = followed input (next input) more)
    (done : next (trim rest) = none) (last : follows rest)
    (ends : ∀ place, leaves place → next place = none)
    (implied : ∀ place, leaves place → stops place)
    (inner : ∀ item ∈ items, ∀ behind, follows (part item ++ behind))
    (stuck : ∀ item ∈ items, ∀ behind, stops (trim (part item ++ behind)))
    (each : ∀ item ∈ items, ∀ behind, follows behind →
      Told (plain item) item (trim behind) leaves (next (trim (part item ++ behind)))) :
    Told (∀ item ∈ items, plain item) items (trim rest) stops
      (some (more (trim (items.flatMap part ++ rest)))) := by
  -- Where an item that is not plain leaves off, no further item begins.
  have nothing (place : List Char) (none : next place = none) : more place = ([], place) := by
    rw [unfolds, none]
    rfl
  induction items with
  | nil =>
      refine .inl ⟨nofun, ?_⟩
      rw [List.flatMap_nil, List.nil_append, nothing _ done]
  | cons item items ih =>
      rw [List.forall_mem_cons] at inner stuck each
      rw [List.flatMap_cons, List.append_assoc, unfolds]
      exact told_followed (each.1 _ (follows_flatMap last items inner.2))
        (ih inner.2 stuck.2 each.2) (stuck.1 _) (fun place left => nothing place (ends place left))
        implied

/-- Several elements that are gathered in one. -/
theorem told_gathered (make : List α → α) (more : List Char → List α × List Char)
    {behind : List Char} {first : α} {begun : Option (α × List Char)} (several : items ≠ [])
    (head : Told (plain first) first behind leaves begun)
    (tail : Told (∀ item ∈ items, plain item) items rest stops (some (more behind)))
    (ends : ∀ place, leaves place → more place = ([], place))
    (implied : ∀ place, leaves place → stops place) :
    Told (∀ item ∈ first :: items, plain item) (make (first :: items)) rest stops
      (begun.map fun (first, rest) => gathered make first (more rest)) := by
  rcases head with ⟨plainFirst, read⟩ | ⟨bad, halts⟩
  · rw [read]
    rcases tail with ⟨all, further⟩ | ⟨broken, halts⟩
    · refine .inl ⟨List.forall_mem_cons.2 ⟨plainFirst, all⟩, ?_⟩
      simp only [Option.some.injEq] at further
      cases items with
      | nil => exact absurd rfl several
      | cons second items =>
          simp only [Option.map_some, further]
          rfl
    · refine .inr ⟨fun all => broken (List.forall_mem_cons.1 all).2, fun result taken => ?_⟩
      cases taken
      rw [gathered_snd]
      exact halts (more behind) rfl
  · refine .inr ⟨fun all => bad (all first (List.mem_cons_self ..)), fun result taken => ?_⟩
    obtain ⟨before, read, rfl⟩ := Option.map_eq_some_iff.1 taken
    have left := halts before read
    simp only [gathered_snd, ends _ left]
    exact implied _ left

end Repetition

end CorpusQuery.Expression
