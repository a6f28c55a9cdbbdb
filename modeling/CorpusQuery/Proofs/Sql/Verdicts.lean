import CorpusQuery.Proofs.Number.Integer
import CorpusQuery.Proofs.Sql.Nesting
import CorpusQuery.Proofs.Text.Fields

namespace CorpusQuery.Sql

/-! What the text of a plain condition says of the numbers in the columns of rows.

The text is read word by word.  An equation, a range or a list of numbers is met or not,
and everything else is left open. -/

/-! ### Words -/

/-- The characters that are words of their own. -/
def isPunctuation (c : Char) : Bool :=
  c == '(' || c == ')' || c == ','

def setApart (c : Char) : List Char :=
  if isPunctuation c then [' ', c, ' '] else [c]

/-- The words of a text, each mark of punctuation for itself. -/
def lexemes (text : List Char) : List (List Char) :=
  (Text.fields ' ' (text.flatMap setApart)).filter (· ≠ [])

/-- The text is one word. -/
def IsLexeme (text : List Char) : Prop :=
  text ≠ [] ∧ ∀ c ∈ text, c ≠ ' ' ∧ isPunctuation c = false

instance (text : List Char) : Decidable (IsLexeme text) :=
  inferInstanceAs (Decidable (_ ∧ _))

theorem flatMap_setApart {text : List Char} (plain : ∀ c ∈ text, isPunctuation c = false) :
    text.flatMap setApart = text := by
  induction text with
  | nil => rfl
  | cons c rest ih =>
      obtain ⟨first, others⟩ := List.forall_mem_cons.1 plain
      simp [setApart, first, ih others]

theorem IsLexeme.lexemes_eq {text : List Char} (word : IsLexeme text) : lexemes text = [text] := by
  obtain ⟨some, plain⟩ := word
  have apart : ' ' ∉ text := fun member => (plain ' ' member).1 rfl
  have whole := @Text.fields_intercalate ' ' [text] (by simpa using apart) (by simp)
  rw [List.intercalate_singleton] at whole
  rw [lexemes, flatMap_setApart fun c member => (plain c member).2, whole]
  simp [some]

theorem lexemes_blank (left right : List Char) :
    lexemes (left ++ ' ' :: right) = lexemes left ++ lexemes right := by
  have kept : setApart ' ' = [' '] := rfl
  rw [lexemes, List.flatMap_append, List.flatMap_cons, kept, List.singleton_append,
    Text.fields_append, List.filter_append, lexemes, lexemes]

theorem lexemes_punctuation {mark : Char} (isMark : isPunctuation mark) (left right : List Char) :
    lexemes (left ++ mark :: right) = lexemes left ++ [mark] :: lexemes right := by
  have other : mark ≠ ' ' := by
    rintro rfl
    exact absurd isMark (by decide)
  have alone : Text.fields ' ' [mark] = [[mark]] := by
    simp [Text.fields, other]
  have split : (left ++ mark :: right).flatMap setApart =
      left.flatMap setApart ++ ' ' :: ([mark] ++ ' ' :: right.flatMap setApart) := by
    simp [setApart, isMark]
  rw [lexemes, split, Text.fields_append, Text.fields_append, alone, List.filter_append,
    List.filter_append, lexemes, lexemes]
  simp

theorem lexemes_intercalate {words : List (List Char)} (all : ∀ word ∈ words, IsLexeme word) :
    lexemes ([' '].intercalate words) = words := by
  induction words with
  | nil => rfl
  | cons first rest ih =>
      obtain ⟨isFirst, others⟩ := List.forall_mem_cons.1 all
      cases rest with
      | nil => simpa using isFirst.lexemes_eq
      | cons second more =>
          rw [List.intercalate_cons_cons, List.append_assoc, List.singleton_append, lexemes_blank,
            isFirst.lexemes_eq, ih others, List.singleton_append]

theorem isLexeme_of_isWordChar {text : List Char} (some : text ≠ [])
    (word : ∀ c ∈ text, isWordChar c ∨ c = '.') : IsLexeme text := by
  refine ⟨some, fun c member => ?_⟩
  rcases word c member with isWord | rfl
  · constructor
    · rintro rfl
      exact absurd isWord (by decide)
    · refine Bool.eq_false_iff.2 fun isMark => ?_
      simp only [isPunctuation, Bool.or_eq_true, beq_iff_eq] at isMark
      rcases isMark with (rfl | rfl) | rfl <;> exact absurd isWord (by decide)
  · decide

theorem isLexeme_toDigits (n : Nat) : IsLexeme (Nat.toDigits 10 n) :=
  isLexeme_of_isWordChar Nat.toDigits_ne_nil fun c member => .inl <| by
    simp [isWordChar, Char.isAlphanum,
      Nat.isDigit_of_mem_toDigits (by decide) (Nat.le_refl 10) member]

/-! ### What words stand for -/

/-- The numbers in the columns of rows, by the names of the row and of the column.  There
is none for null. -/
abbrev Numbers := String → String → Option Int

inductive Lexeme where
  | number (value : Option Int)
  | word (text : String)
deriving DecidableEq

/-- Digits are a number, and a name with a dot in it is the column of a row. -/
def Lexeme.ofChars (numbers : Numbers) (chars : List Char) : Lexeme :=
  match Number.natural? chars with
  | some value => .number (some value)
  | none =>
      match Text.cut '.' chars with
      | some (row, column) => .number (numbers (String.ofList row) (String.ofList column))
      | none => .word (String.ofList chars)

section

variable (numbers : Numbers)

theorem Lexeme.ofChars_toDigits (n : Nat) :
    Lexeme.ofChars numbers (Nat.toDigits 10 n) = .number (some n) := by
  rw [ofChars, Number.natural?_toDigits]

theorem Lexeme.ofChars_text {number : Int64} (nonneg : 0 ≤ number) :
    Lexeme.ofChars numbers (Number.text number).toList = .number (some number.toInt) := by
  have positive : 0 ≤ number.toInt := by
    simpa [Int64.le_iff_toInt_le] using nonneg
  have value : (number.toInt.natAbs : Int) = number.toInt := by omega
  rw [Number.toList_text_of_nonneg positive, ofChars_toDigits, value]

theorem Lexeme.ofChars_column {row column : String} (bare : ∀ c ∈ row.toList, isWordChar c) :
    Lexeme.ofChars numbers (row.toList ++ '.' :: column.toList) =
      .number (numbers row column) := by
  have noNumber : Number.natural? (row.toList ++ '.' :: column.toList) = none := by
    cases read : Number.natural? (row.toList ++ '.' :: column.toList) with
    | none => rfl
    | some n =>
        have digit := (Number.isDigit_of_natural? read).2 '.' (by simp)
        exact absurd digit (by decide)
  have apart : '.' ∉ row.toList := fun member => absurd (bare '.' member) (by decide)
  simp [ofChars, noNumber, Text.cut_append apart]

end

/-! ### Conditions -/

/-- A number, a sum or a difference; null with null among its parts. -/
def sum? : List Lexeme → Option (Option Int)
  | [.number value] => some value
  | [.number left, .word "+", .number right] => some (left.bind fun value => right.map (value + ·))
  | [.number left, .word "-", .number right] => some (left.bind fun value => right.map (value - ·))
  | _ => none

/-- The numbers between commas, up to the closing parenthesis. -/
def listed? : List Lexeme → Option (List Int)
  | [.number (some value), .word ")"] => some [value]
  | .number (some value) :: .word "," :: rest => (listed? rest).map (value :: ·)
  | _ => none

/-- Two numbers compare in this way; null compares with nothing. -/
def compares (relation : Int → Int → Bool) (left right : Option Int) : Bool :=
  left.any fun left => right.any (relation left)

def readCondition : List Lexeme → Option Bool
  | [.word "TRUE"] => some true
  | [.word "FALSE"] => some false
  | .number left :: .word "=" :: right => (sum? right).map (compares (· == ·) left)
  | .number left :: .word "<>" :: right => (sum? right).map (compares (· != ·) left)
  | .number left :: .word "BETWEEN" :: bounds => do
      let least ← sum? (bounds.takeWhile (· ≠ .word "AND"))
      let greatest ← sum? ((bounds.dropWhile (· ≠ .word "AND")).drop 1)
      return compares (· ≤ ·) least left && compares (· ≤ ·) left greatest
  | .number left :: .word "IN" :: .word "(" :: items =>
      (listed? items).map fun items => left.any items.contains
  | .number left :: .word "NOT" :: .word "IN" :: .word "(" :: items =>
      (listed? items).map fun items => left.any (!items.contains ·)
  | _ => none

/-- Whether the text of a condition is met by these numbers, where it says no more. -/
def verdict? (numbers : Numbers) (text : String) : Option Bool :=
  readCondition ((lexemes text.toList).map (Lexeme.ofChars numbers))

/-- The text of a condition that has blanks between all its words. -/
theorem verdict?_of_words {numbers : Numbers} {text : String} {words : List (List Char)}
    (written : text.toList = [' '].intercalate words) (all : ∀ word ∈ words, IsLexeme word) :
    verdict? numbers text = readCondition (words.map (Lexeme.ofChars numbers)) := by
  rw [verdict?, written, lexemes_intercalate all]

example : verdict? (fun _ _ => some 7) "a.x BETWEEN b.y + 1 AND b.y + 3" = some false := by decide

theorem readCondition_among (negated : Bool) (value : Option Int) (items : List Lexeme) :
    readCondition (.number value ::
        ((if negated then ["NOT", "IN", "("] else ["IN", "("]).map Lexeme.word ++ items)) =
      (listed? items).map fun items =>
        value.any fun number => negated ^^ items.contains number := by
  cases negated with
  | false =>
      simp only [Bool.false_xor]
      rfl
  | true => simp [readCondition]

example : verdict? (fun _ _ => some 7) "a.x NOT IN (5, 6)" = some true := by decide

end CorpusQuery.Sql
