import CorpusQuery.Proofs.Text.Characters

namespace CorpusQuery.Number

/-! Integers read back from their canonical texts. -/

theorem int64?_toInt (n : Int64) : int64? n.toInt = some n := by
  have least : least ≤ n.toInt := Int64.le_toInt n
  have greatest : n.toInt ≤ greatest := Int64.toInt_le n
  rw [int64?, if_pos ⟨least, greatest⟩, Int64.ofInt_toInt]

/-! ### Canonical texts -/

theorem toList_text_of_nonneg {n : Int64} (nonneg : 0 ≤ n.toInt) :
    (text n).toList = Nat.toDigits 10 n.toInt.natAbs := by
  have size : n.toInt.toNat = n.toInt.natAbs := by omega
  rw [text, Int.toString_eq_repr, Int.repr_eq_if, if_pos nonneg, size, Nat.toList_repr]

theorem toList_text_of_neg {n : Int64} (below : n.toInt < 0) :
    (text n).toList = '-' :: Nat.toDigits 10 n.toInt.natAbs := by
  have size : (-n.toInt).toNat = n.toInt.natAbs := by omega
  rw [text, Int.toString_eq_repr, Int.repr_eq_if, if_neg (Int.not_le.2 below), size,
    String.toList_append, Nat.toList_repr]
  rfl

theorem not_mem_text {n : Int64} {mark : Char} (other : mark ≠ '-' ∧ mark.isDigit = false) :
    mark ∉ (text n).toList := by
  intro member
  rcases isDigit_of_mem_text member with minus | digit
  · exact other.1 minus
  · exact absurd digit (by simp [other.2])

/-! ### Reading -/

theorem natural?_toDigits (n : Nat) : natural? (Nat.toDigits 10 n) = some n := by
  have digits : (Nat.toDigits 10 n).all Char.isDigit :=
    List.all_eq_true.2 fun c member =>
      Nat.isDigit_of_mem_toDigits (by decide) (Nat.le_refl 10) member
  rw [natural?, if_pos ⟨Nat.toDigits_ne_nil, digits⟩, Nat.ofDigitChars_ten_toDigits]

theorem isDigit_of_natural? {chars : List Char} {n : Nat} (read : natural? chars = some n) :
    chars ≠ [] ∧ ∀ c ∈ chars, c.isDigit := by
  unfold natural? at read
  split at read
  · rename_i digits
    exact ⟨digits.1, List.all_eq_true.1 digits.2⟩
  · contradiction

theorem unsigned?_text {n : Int64} (nonneg : 0 ≤ n.toInt) : unsigned? (text n).toList = some n := by
  have value : (n.toInt.natAbs : Int) = n.toInt := by omega
  rw [toList_text_of_nonneg nonneg, unsigned?, natural?_toDigits, Option.bind_some, value,
    int64?_toInt]

/-- A minus is no part of an unsigned number. -/
theorem unsigned?_text_of_neg {n : Int64} (below : n.toInt < 0) :
    unsigned? (text n).toList = none := by
  rw [toList_text_of_neg below]
  rfl

theorem nonneg_of_unsigned? {chars : List Char} {n : Int64} (read : unsigned? chars = some n) :
    0 ≤ n.toInt := by
  obtain ⟨value, -, inRange⟩ := Option.bind_eq_some_iff.1 read
  rw [toInt_of_int64? inRange]
  exact Int.natCast_nonneg value

theorem isDigit_of_unsigned? {chars : List Char} {n : Int64} (read : unsigned? chars = some n) :
    chars ≠ [] ∧ ∀ c ∈ chars, c.isDigit := by
  obtain ⟨value, natural, -⟩ := Option.bind_eq_some_iff.1 read
  exact isDigit_of_natural? natural

/-- Without a minus at its head a text is read as an unsigned one. -/
theorem signed?_eq_unsigned? {chars : List Char} (bare : chars.head? ≠ some '-') :
    signed? chars = unsigned? chars := by
  unfold signed?
  split
  · exact absurd rfl bare
  · rfl

theorem signed?_text (n : Int64) : signed? (text n).toList = some n := by
  rcases Int.lt_or_le n.toInt 0 with below | nonneg
  · have value : -(n.toInt.natAbs : Int) = n.toInt := by omega
    rw [toList_text_of_neg below, signed?, natural?_toDigits, Option.bind_some, value,
      int64?_toInt]
  · have bare : (text n).toList.head? ≠ some '-' := by
      intro minus
      have digit := (isDigit_of_unsigned? (unsigned?_text nonneg)).2 '-'
        (List.mem_of_mem_head? minus)
      exact absurd digit (by decide)
    rw [signed?_eq_unsigned? bare, unsigned?_text nonneg]

theorem text_injective : Function.Injective text := by
  intro left right same
  have read := signed?_text left
  rw [same, signed?_text] at read
  exact (Option.some.inj read).symm

/-! ### Reading digit by digit -/

/-- The number of a size, above or below zero. -/
def signed (negative : Bool) (size : Nat) : Int :=
  if negative then -(size : Int) else size

@[simp] theorem signed_true (size : Nat) : signed true size = -(size : Int) := rfl

@[simp] theorem signed_false (size : Nat) : signed false size = size := rfl

theorem signed_natAbs (n : Int) : signed (decide (n < 0)) n.natAbs = n := by
  by_cases negative : n < 0
  · rw [decide_eq_true negative, signed_true]
    omega
  · rw [decide_eq_false negative, signed_false]
    omega

theorem isInRange_of_le {negative : Bool} {size larger : Nat} (smaller : size ≤ larger)
    (inRange : least ≤ signed negative larger ∧ signed negative larger ≤ greatest) :
    least ≤ signed negative size ∧ signed negative size ≤ greatest := by
  unfold least greatest at *
  cases negative
  · simp only [signed_false] at *
    omega
  · simp only [signed_true] at *
    omega

theorem le_ofDigitChars (chars : List Char) (size : Nat) :
    size ≤ Nat.ofDigitChars 10 chars size := by
  induction chars generalizing size with
  | nil => simp
  | cons c rest ih =>
      rw [Nat.ofDigitChars_cons]
      exact Nat.le_trans (by omega) (ih _)

theorem readDigits_cons {negative : Bool} {c : Char} {rest : List Char} {size : Nat}
    (digit : c.isDigit)
    (inRange : least ≤ signed negative (Nat.ofDigitChars 10 [c] size) ∧
      signed negative (Nat.ofDigitChars 10 [c] size) ≤ greatest) :
    readDigits negative (signed negative size) (c :: rest) =
      readDigits negative (signed negative (Nat.ofDigitChars 10 [c] size)) rest := by
  have next : (if negative then 10 * signed negative size - (Nat.ofDigitChars 10 [c] 0 : Nat)
      else 10 * signed negative size + (Nat.ofDigitChars 10 [c] 0 : Nat) : Int) =
      signed negative (Nat.ofDigitChars 10 [c] size) := by
    simp only [Nat.ofDigitChars_cons, Nat.ofDigitChars_nil]
    cases negative
    · simp only [signed_false, Bool.false_eq_true, if_false]
      omega
    · simp only [signed_true, if_true]
      omega
  simp only [readDigits, digit, if_true, next, Int.not_lt.2 inRange.1, Int.not_lt.2 inRange.2,
    if_false]

/-- No digit takes the value out of the range if the last one does not. -/
theorem readDigits_of_isDigit (negative : Bool) {chars : List Char} {size : Nat}
    (digits : ∀ c ∈ chars, c.isDigit)
    (inRange : least ≤ signed negative (Nat.ofDigitChars 10 chars size) ∧
      signed negative (Nat.ofDigitChars 10 chars size) ≤ greatest) :
    readDigits negative (signed negative size) chars =
      .ok (signed negative (Nat.ofDigitChars 10 chars size)) := by
  induction chars generalizing size with
  | nil => rfl
  | cons c rest ih =>
      obtain ⟨digit, others⟩ := List.forall_mem_cons.1 digits
      have split : Nat.ofDigitChars 10 (c :: rest) size =
          Nat.ofDigitChars 10 rest (Nat.ofDigitChars 10 [c] size) := rfl
      rw [split] at inRange ⊢
      rw [readDigits_cons digit (isInRange_of_le (le_ofDigitChars rest _) inRange)]
      exact ih others inRange

theorem readDigits_toDigits (n : Int64) :
    readDigits (decide (n.toInt < 0)) 0 (Nat.toDigits 10 n.toInt.natAbs) = .ok n.toInt := by
  have inRange : least ≤ n.toInt ∧ n.toInt ≤ greatest := ⟨Int64.le_toInt n, Int64.toInt_le n⟩
  have zero : signed (decide (n.toInt < 0)) 0 = 0 := by
    cases decide (n.toInt < 0) <;> rfl
  have value : signed (decide (n.toInt < 0))
      (Nat.ofDigitChars 10 (Nat.toDigits 10 n.toInt.natAbs) 0) = n.toInt := by
    rw [Nat.ofDigitChars_ten_toDigits, signed_natAbs]
  have digits : ∀ c ∈ Nat.toDigits 10 n.toInt.natAbs, c.isDigit := fun c member =>
    Nat.isDigit_of_mem_toDigits (by decide) (Nat.le_refl 10) member
  have read := readDigits_of_isDigit (decide (n.toInt < 0)) digits (value.symm ▸ inRange)
  rwa [value, zero] at read

theorem read_of_isDigit {chars : List Char} (some : chars ≠ []) (digits : ∀ c ∈ chars, c.isDigit) :
    read chars = (readDigits false 0 chars).map Int64.ofInt ∧
      read ('-' :: chars) = (readDigits true 0 chars).map Int64.ofInt := by
  cases chars with
  | nil => exact absurd rfl some
  | cons c rest =>
      refine ⟨?_, rfl⟩
      have digit := digits c List.mem_cons_self
      have minus : c ≠ '-' := fun same => by
        rw [same] at digit
        contradiction
      have plus : c ≠ '+' := fun same => by
        rw [same] at digit
        contradiction
      unfold read
      split <;> simp_all

theorem read_text (n : Int64) : read (text n).toList = .ok n := by
  have digits : ∀ c ∈ Nat.toDigits 10 n.toInt.natAbs, c.isDigit := fun c member =>
    Nat.isDigit_of_mem_toDigits (by decide) (Nat.le_refl 10) member
  have read := readDigits_toDigits n
  obtain ⟨above, below⟩ := read_of_isDigit Nat.toDigits_ne_nil digits
  rcases Int.lt_or_le n.toInt 0 with negative | nonneg
  · rw [decide_eq_true negative] at read
    rw [toList_text_of_neg negative, below, read, Except.map, Int64.ofInt_toInt]
  · rw [decide_eq_false (Int.not_lt.2 nonneg)] at read
    rw [toList_text_of_nonneg nonneg, above, read, Except.map, Int64.ofInt_toInt]

end CorpusQuery.Number
