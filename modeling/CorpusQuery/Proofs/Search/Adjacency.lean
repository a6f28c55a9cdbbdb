import CorpusQuery.Proofs.Search.Columns
import CorpusQuery.Proofs.Search.Names
import CorpusQuery.Proofs.Sql.Verdicts

namespace CorpusQuery.Search

/-! What the texts of ties between words say of the numbers in their columns. -/

open Sql

/-- The number in the cell, if it is not null. -/
def Cell.value? (numbers : Numbers) (cell : Cell) : Option Int :=
  numbers cell.row.name cell.column

/-- The text of the tie says something of these numbers that is so. -/
def Tie.Holds (numbers : Numbers) (tie : Tie) : Prop :=
  verdict? numbers tie.fragment.sql = some true

/-- The later word is behind the earlier one, and no further than the distance. -/
def Follows (numbers : Numbers) (distance : Nat) (later earlier : Alias) : Prop :=
  ∃ place next, earlier.ordinalInTurn.value? numbers = some place ∧
    later.ordinalInTurn.value? numbers = some next ∧
    place + 1 ≤ next ∧ next ≤ place + distance

/-! ### Cells as words -/

namespace Cell

def chars (cell : Cell) : List Char :=
  cell.row.chars ++ '.' :: cell.column.toList

theorem toList_piece (cell : Cell) : cell.piece.sql.toList = cell.chars := by
  simp [piece, Piece.sql, chars, Alias.chars]

theorem isLexeme_chars {cell : Cell} (plain : cell.IsPlain) : IsLexeme cell.chars := by
  refine isLexeme_of_isWordChar (by simp [chars]) fun c member => ?_
  rcases List.mem_append.1 member with ofRow | ofColumn
  · exact .inl (cell.row.isWord_name.bare c ofRow)
  · rcases List.mem_cons.1 ofColumn with rfl | inColumn
    · exact .inr rfl
    · exact .inl (plain.bare c inColumn)

theorem ofChars_chars (numbers : Numbers) (cell : Cell) :
    Lexeme.ofChars numbers cell.chars = .number (cell.value? numbers) :=
  Lexeme.ofChars_column numbers cell.row.isWord_name.bare

end Cell

/-! ### Ties -/

namespace Tie

variable {numbers : Numbers} {left right : Cell}

theorem sql_words (text : String) : (Piece.words text).sql = text := rfl

theorem sql_and : Piece.and.sql = "AND " := rfl

/-- A tie whose words are these is met if what they stand for is. -/
theorem holds_iff {tie : Tie} {words : List (List Char)}
    (written : tie.fragment.sql.toList = [' '].intercalate words)
    (all : ∀ word ∈ words, IsLexeme word) :
    tie.Holds numbers ↔ readCondition (words.map (Lexeme.ofChars numbers)) = some true := by
  rw [Holds, verdict?_of_words written all]

variable (first : left.IsPlain) (second : right.IsPlain)

include first second

theorem holds_equal : (equal left right).Holds numbers ↔
    ∃ value, left.value? numbers = some value ∧ right.value? numbers = some value := by
  have written : (equal left right).fragment.sql.toList =
      [' '].intercalate [left.chars, ['='], right.chars] := by
    simp [equal, fragment, Cell.toList_piece, sql_words, Ordering.symbol]
  have sign : IsLexeme ['='] := by decide
  have means : Lexeme.ofChars numbers ['='] = .word "=" := rfl
  rw [holds_iff written (by simp [Cell.isLexeme_chars first, Cell.isLexeme_chars second, sign])]
  simp only [List.map_cons, List.map_nil, Cell.ofChars_chars, means, readCondition, sum?]
  cases left.value? numbers <;> cases right.value? numbers <;> simp [compares]
  exact eq_comm

theorem holds_following : (following left right).Holds numbers ↔
    ∃ place, right.value? numbers = some place ∧ left.value? numbers = some (place + 1) := by
  have written : (following left right).fragment.sql.toList =
      [' '].intercalate [left.chars, ['='], right.chars, ['+'], ['1']] := by
    simp [fragment, Cell.toList_piece, sql_words]
  have signs : IsLexeme ['='] ∧ IsLexeme ['+'] ∧ IsLexeme ['1'] := by decide
  have means : Lexeme.ofChars numbers ['='] = .word "=" ∧
      Lexeme.ofChars numbers ['+'] = .word "+" ∧
      Lexeme.ofChars numbers ['1'] = .number (some 1) := ⟨rfl, rfl, rfl⟩
  rw [holds_iff written (by simp [Cell.isLexeme_chars first, Cell.isLexeme_chars second, signs])]
  simp only [List.map_cons, List.map_nil, Cell.ofChars_chars, means, readCondition, sum?]
  cases left.value? numbers <;> cases right.value? numbers <;> simp [compares]

theorem holds_within {distance : Nat} : (within distance left right).Holds numbers ↔
    ∃ place next, right.value? numbers = some place ∧ left.value? numbers = some next ∧
      place + 1 ≤ next ∧ next ≤ place + distance := by
  have written : (within distance left right).fragment.sql.toList =
      [' '].intercalate [left.chars, "BETWEEN".toList, right.chars, ['+'], ['1'], "AND".toList,
        right.chars, ['+'], Nat.toDigits 10 distance] := by
    simp [fragment, Cell.toList_piece, sql_words, sql_and]
  have signs : IsLexeme "BETWEEN".toList ∧ IsLexeme ['+'] ∧ IsLexeme ['1'] ∧
      IsLexeme "AND".toList := by decide
  have means : Lexeme.ofChars numbers "BETWEEN".toList = .word "BETWEEN" ∧
      Lexeme.ofChars numbers ['+'] = .word "+" ∧
      Lexeme.ofChars numbers ['1'] = .number (some 1) ∧
      Lexeme.ofChars numbers "AND".toList = .word "AND" := ⟨rfl, rfl, rfl, rfl⟩
  rw [holds_iff written (by
    simp only [List.forall_mem_cons, List.not_mem_nil, false_imp_iff, implies_true,
      Cell.isLexeme_chars first, Cell.isLexeme_chars second, signs, isLexeme_toDigits, and_self])]
  simp only [List.map_cons, List.map_nil, Cell.ofChars_chars, means, Lexeme.ofChars_toDigits,
    readCondition]
  cases left.value? numbers <;> cases right.value? numbers <;> simp [compares, sum?]

end Tie

/-- A distance of one is written in another way, and says the same. -/
theorem Tie.holds_adjacent {numbers : Numbers} {distance : Nat} (apart : 1 ≤ distance)
    (later earlier : Alias) :
    (adjacent distance later earlier).Holds numbers ↔ Follows numbers distance later earlier := by
  unfold adjacent
  split
  · obtain rfl : distance = 1 := by omega
    rw [holds_following (by simp) (by simp), Follows]
    constructor
    · rintro ⟨place, before, behind⟩
      exact ⟨place, place + 1, before, behind, by omega, by omega⟩
    · rintro ⟨place, next, before, behind, least, greatest⟩
      obtain rfl : next = place + 1 := by omega
      exact ⟨place, before, behind⟩
  · exact holds_within (by simp) (by simp)

end CorpusQuery.Search
