import CorpusQuery.Number.Integer
import CorpusQuery.Number.Written
import CorpusQuery.Text.Blank

namespace CorpusQuery

/-! The characters of texts. -/

namespace Text

/-! ### Decisions

What holds of the characters of a text is decided along the text, and not by way of all
characters there are. -/

section Decisions

variable (p : Char → Prop) [DecidablePred p]

instance decidableForallMem (chars : List Char) : Decidable (∀ c ∈ chars, p c) :=
  List.decidableBAll p chars

instance decidableExistsMem (chars : List Char) : Decidable (∃ c ∈ chars, p c) :=
  List.decidableBEx p chars

instance decidableForallMemOption (c? : Option Char) : Decidable (∀ c ∈ c?, p c) :=
  Option.decidableForallMem c?

instance decidableExistsMemOption (c? : Option Char) : Decidable (∃ c ∈ c?, p c) :=
  Option.decidableExistsMem c?

end Decisions

/-! ### Blanks -/

theorem isBlank_of_isDigit {c : Char} (digit : c.isDigit) : isBlank c = false := by
  have range : 48 ≤ c.toNat ∧ c.toNat ≤ 57 :=
    (Bool.and_eq_true_iff.trans (and_congr decide_eq_true_iff decide_eq_true_iff)).1 digit
  rw [Bool.eq_false_iff]
  intro blank
  simp only [isBlank, Bool.or_eq_true, Bool.and_eq_true, decide_eq_true_eq, beq_iff_eq] at blank
  omega

theorem trim_eq_self {chars : List Char} (visible : ∀ c ∈ chars, isBlank c = false) :
    trim chars = chars := by
  have kept {chars : List Char} (visible : ∀ c ∈ chars, isBlank c = false) :
      chars.dropWhile isBlank = chars := by
    cases chars with
    | nil => rfl
    | cons c rest => simp [visible c List.mem_cons_self]
  rw [trim, trimStart, kept visible, trimEnd,
    kept fun c member => visible c (List.mem_reverse.1 member), List.reverse_reverse]

end Text

namespace Number

/-! ### Digits -/

/-- The canonical text of an integer is a sign and its digits. -/
theorem text_parts (value : Int64) :
    ∃ negative digits, (Number.text value).toList = (sign negative).toList ++ digits ∧
      digits ≠ [] ∧ (∀ c ∈ digits, c.isDigit) ∧
      (if negative then -(Nat.ofDigitChars 10 digits 0 : Int) else Nat.ofDigitChars 10 digits 0) =
        value.toInt := by
  refine ⟨decide (value.toInt < 0), Nat.toDigits 10 value.toInt.natAbs, ?_, Nat.toDigits_ne_nil,
    fun c mem => Nat.isDigit_of_mem_toDigits (by decide) (Nat.le_refl 10) mem, ?_⟩
  · unfold Number.text
    rw [Int.toString_eq_repr, Int.repr_eq_if]
    by_cases below : value.toInt < 0
    · have size : (-value.toInt).toNat = value.toInt.natAbs := by omega
      rw [if_neg (Int.not_le.2 below), size, String.toList_append, Nat.toList_repr,
        decide_eq_true below]
      rfl
    · have size : value.toInt.toNat = value.toInt.natAbs := by omega
      rw [if_pos (Int.not_lt.1 below), size, Nat.toList_repr, decide_eq_false below]
      rfl
  · rw [Nat.ofDigitChars_ten_toDigits]
    by_cases below : value.toInt < 0
    · simp only [below, decide_true, if_true]
      omega
    · simp only [below, decide_false, Bool.false_eq_true, if_false]
      omega

theorem isDigit_of_mem_text {n : Int64} {c : Char} (member : c ∈ (Number.text n).toList) :
    c = '-' ∨ c.isDigit := by
  obtain ⟨negative, digits, parts, _, all, _⟩ := text_parts n
  rw [parts, List.mem_append] at member
  rcases member with minus | digit
  · cases negative with
    | false => simp [sign] at minus
    | true => exact .inl (by simpa [sign] using minus)
  · exact .inr (all c digit)

theorem trim_text (n : Int64) : Text.trim (text n).toList = (text n).toList := by
  refine Text.trim_eq_self fun c member => ?_
  rcases isDigit_of_mem_text member with rfl | digit
  · rfl
  · exact Text.isBlank_of_isDigit digit

end Number

end CorpusQuery
