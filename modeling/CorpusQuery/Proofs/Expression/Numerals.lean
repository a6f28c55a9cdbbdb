import CorpusQuery.Expression.Lexeme
import CorpusQuery.Expression.Printer
import CorpusQuery.Proofs.Number.Shortest
import CorpusQuery.Proofs.Text.Characters

namespace CorpusQuery

/-! Numbers written in expressions read back. -/

namespace Number

theorem takeDigits_append {digits rest : List Char} (all : ∀ c ∈ digits, c.isDigit)
    (stop : rest.head?.any Char.isDigit = false) : takeDigits (digits ++ rest) = (digits, rest) := by
  unfold takeDigits
  rw [List.takeWhile_append_of_pos all, List.dropWhile_append_of_pos all]
  cases rest with
  | nil => simp
  | cons c rest =>
      have plain : c.isDigit = false := by simpa using stop
      simp [plain]

theorem isDigit_of_mem_zeros {count : Nat} {c : Char} (mem : c ∈ zeros count) : c.isDigit := by
  obtain ⟨_, rfl⟩ := List.mem_replicate.1 mem
  decide

/-- Texts of digits with a point between them, and the numeral they stand for. -/
structure Pointed (d : Decimal) (chars whole fraction : List Char) : Prop where
  chars_eq : chars = whole ++ '.' :: fraction
  whole_some : whole ≠ []
  fraction_some : fraction ≠ []
  whole_digits : ∀ c ∈ whole, c.isDigit
  fraction_digits : ∀ c ∈ fraction, c.isDigit
  value : ⟨Nat.ofDigitChars 10 (whole ++ fraction) 0, -(fraction.length : Int)⟩ = d

section

variable {digits : List Char} (all : ∀ c ∈ digits, c.isDigit) {exponent : Int}

include all

/-- The point stands among the digits. -/
theorem pointed_take {point : Nat} (place : (digits.length : Int) + exponent = point)
    (some : 0 < point) (inside : exponent < 0) :
    Pointed ⟨Nat.ofDigitChars 10 digits 0, exponent⟩ (digits.take point ++ '.' :: digits.drop point)
      (digits.take point) (digits.drop point) where
  chars_eq := rfl
  whole_some := by
    apply List.ne_nil_of_length_pos
    rw [List.length_take]
    omega
  fraction_some := by
    apply List.ne_nil_of_length_pos
    rw [List.length_drop]
    omega
  whole_digits c member := all c (List.mem_of_mem_take member)
  fraction_digits c member := all c (List.mem_of_mem_drop member)
  value := by
    rw [List.take_append_drop, List.length_drop]
    congr 1
    omega

/-- The point stands before the digits, with zeros between them. -/
theorem pointed_zeros {gap : Nat} (place : -((digits.length : Int) + exponent) = gap)
    (some : 0 < digits.length) :
    Pointed ⟨Nat.ofDigitChars 10 digits 0, exponent⟩ ('0' :: '.' :: (zeros gap ++ digits))
      ['0'] (zeros gap ++ digits) where
  chars_eq := rfl
  whole_some := List.cons_ne_nil _ _
  fraction_some := by
    apply List.ne_nil_of_length_pos
    rw [List.length_append]
    omega
  whole_digits := by decide
  fraction_digits c member := by
    rcases List.mem_append.1 member with zero | digit
    · exact isDigit_of_mem_zeros zero
    · exact all c digit
  value := by
    have leading : ['0'] ++ (zeros gap ++ digits) = List.replicate (gap + 1) '0' ++ digits := rfl
    rw [leading, Nat.ofDigitChars_append, Nat.ofDigitChars_replicate_zero, Nat.mul_zero,
      List.length_append, zeros, List.length_replicate]
    congr 1
    omega

end

theorem Decimal.pointed_positional {d : Decimal} (fractional : d.exponent < 0) :
    ∃ whole fraction, Pointed d d.positional.toList whole fraction := by
  obtain ⟨n, exponent⟩ := d
  simp only at fractional
  -- All that matters of the digits is that they are some, and those of this number.
  obtain ⟨digits, written⟩ : ∃ digits, digits = Nat.toDigits 10 n := ⟨_, rfl⟩
  have all : ∀ c ∈ digits, c.isDigit := fun c mem =>
    Nat.isDigit_of_mem_toDigits (by decide) (Nat.le_refl 10) (written ▸ mem)
  have value : Nat.ofDigitChars 10 digits 0 = n := by rw [written, Nat.ofDigitChars_ten_toDigits]
  have some : 0 < digits.length := by
    rw [written]
    exact Nat.length_toDigits_pos
  unfold positional
  simp only [← written, if_neg (Int.not_le.2 fractional)]
  split
  · rename_i inside
    obtain ⟨point, place⟩ : ∃ point : Nat, (digits.length : Int) + exponent = point :=
      ⟨_, (Int.toNat_of_nonneg (Int.le_of_lt inside)).symm⟩
    rw [place, Int.toNat_natCast, String.toList_ofList]
    exact ⟨_, _, value ▸ pointed_take all place (by omega) fractional⟩
  · rename_i before
    obtain ⟨gap, place⟩ : ∃ gap : Nat, -((digits.length : Int) + exponent) = gap :=
      ⟨_, (Int.toNat_of_nonneg (by omega)).symm⟩
    rw [place, Int.toNat_natCast, String.toList_ofList]
    exact ⟨_, _, value ▸ pointed_zeros all place some⟩

theorem pointed_whole (n : Nat) :
    Pointed ⟨10 * n, -1⟩ (Nat.toDigits 10 n ++ ['.', '0']) (Nat.toDigits 10 n) ['0'] where
  chars_eq := rfl
  whole_some := Nat.toDigits_ne_nil
  fraction_some := List.cons_ne_nil _ _
  whole_digits _ mem := Nat.isDigit_of_mem_toDigits (by decide) (Nat.le_refl 10) mem
  fraction_digits := by decide
  value := by
    rw [Nat.ofDigitChars_append, Nat.ofDigitChars_ten_toDigits]
    rfl

theorem lt_pow_of_units {n significand scale unit places : Nat} (small : significand < 2 ^ 53)
    (bound : scale ≤ places + unit) (units : n * 2 ^ unit = significand * 2 ^ scale) :
    n < 2 ^ (53 + places) := by
  apply Nat.lt_of_mul_lt_mul_right (a := 2 ^ unit)
  calc
    n * 2 ^ unit = significand * 2 ^ scale := units
    _ < 2 ^ 53 * 2 ^ scale := (Nat.mul_lt_mul_right (Nat.two_pow_pos scale)).2 small
    _ ≤ 2 ^ 53 * 2 ^ (places + unit) :=
      Nat.mul_le_mul_left _ (Nat.pow_le_pow_right (by decide) bound)
    _ = 2 ^ (53 + places) * 2 ^ unit := by
      rw [Nat.pow_add 2 places, Nat.pow_add 2 53, Nat.mul_assoc]

theorem two_pow_le_ten_pow (n : Nat) : 2 ^ (32 * n) ≤ 10 ^ (10 * n) := by
  rw [Nat.pow_mul, Nat.pow_mul]
  exact Nat.pow_le_pow_left (by decide) n

/-- A whole number is below ten to the power three hundred and thirty. -/
theorem digitCount_whole {n significand scale : Nat} (normal : Normal significand scale)
    (units : n * Nat.pow 2 1074 = significand * Nat.pow 2 scale) : Decimal.digitCount n ≤ 330 := by
  have below : n < 2 ^ (53 + 971) := lt_pow_of_units normal.1 normal.2.1 units
  apply Decimal.digitCount_le (by decide)
  calc
    n < 2 ^ (53 + 971) := below
    _ ≤ 2 ^ (32 * 33) := Nat.pow_le_pow_right (by decide) (by decide)
    _ ≤ 10 ^ (10 * 33) := two_pow_le_ten_pow 33

theorem round_whole (negative : Bool) {n significand scale : Nat}
    (normal : Normal significand scale)
    (units : n * Nat.pow 2 1074 = significand * Nat.pow 2 scale) :
    Decimal.round negative ⟨10 * n, -1⟩ = .finite negative significand scale normal := by
  by_cases zero : n = 0
  · have none : significand = 0 := by
      rw [zero, Nat.zero_mul] at units
      exact (Nat.mul_eq_zero.1 units.symm).resolve_right (Nat.ne_of_gt (Nat.two_pow_pos scale))
    subst zero none
    obtain rfl : scale = 0 := normal.2.2 (by decide)
    rfl
  · have positive : 0 < n := Nat.pos_of_ne_zero zero
    have few := digitCount_whole normal units
    have shifted := Decimal.digitCount_mul_ten positive
    apply Decimal.round_exact negative normal
    · exact Nat.mul_ne_zero (by decide) zero
    · change (-1 : Int) < 0
      decide
    · simp only
      omega
    · simp only
      omega
    · change 10 * n * Nat.pow 2 1074 = 10 * (significand * Nat.pow 2 scale)
      rw [Nat.mul_assoc, units]

end Number

namespace Expression

open Number

/-- The canonical text of a finite value is a sign and a numeral that rounds to it. -/
theorem pointed_numeral {value : Binary64} (finite : value.isFinite) :
    ∃ negative d chars whole fraction, numeral value = (sign negative).toList ++ chars ∧
      Pointed d chars whole fraction ∧ d.round negative = value := by
  cases value with
  | infinite | nan => cases finite
  | finite negative significand scale normal =>
      by_cases divided : significand * Nat.pow 2 scale % Nat.pow 2 1074 = 0
      · obtain ⟨n, quotient⟩ : ∃ n, n = significand * Nat.pow 2 scale / Nat.pow 2 1074 := ⟨_, rfl⟩
        have units : n * Nat.pow 2 1074 = significand * Nat.pow 2 scale := by
          rw [quotient]
          exact Nat.div_mul_cancel (Nat.dvd_of_mod_eq_zero divided)
        have whole : (Binary64.finite negative significand scale normal).wholePart? = some n :=
          quotient ▸ if_pos divided
        refine ⟨negative, _, _, _, _, ?_, pointed_whole n, round_whole negative normal units⟩
        unfold numeral
        simp only [whole]
        rw [String.toList_append, String.toList_append, Nat.toString_eq_repr, Nat.toList_repr,
          List.append_assoc]
        rfl
      · have whole : (Binary64.finite negative significand scale normal).wholePart? = none :=
          if_neg divided
        have fraction : ¬Nat.pow 2 1074 ∣ significand * Nat.pow 2 scale := fun divides =>
          divided (Nat.mod_eq_zero_of_dvd divides)
        have some : significand ≠ 0 := by
          intro zero
          apply fraction
          rw [zero, Nat.zero_mul]
          exact Nat.dvd_zero _
        have fine : scale < 1074 := by
          apply Nat.lt_of_not_le
          intro coarse
          exact fraction
            (Dvd.dvd.mul_left (Dvd.intro_left _ (Binary64.pow_two_split coarse).symm) _)
        have positive := Nat.pos_of_ne_zero some
        obtain ⟨before, behind, pointed⟩ := Decimal.pointed_positional
          (Decimal.shortest_fractional .up normal positive fraction fine)
        refine ⟨negative, _, _, before, behind, ?_, pointed,
          Decimal.round_shortest .up negative normal positive fine⟩
        have shortest : (Binary64.finite negative significand scale normal).text =
            sign negative ++ (Decimal.shortest .up significand scale).positional := if_neg some
        unfold numeral
        simp only [whole]
        rw [shortest, String.toList_append]

theorem minus_sign {negative : Bool} {digits rest : List Char} (some : digits ≠ [])
    (all : ∀ c ∈ digits, c.isDigit) :
    minus ((sign negative).toList ++ (digits ++ rest)) = (negative, digits ++ rest) := by
  cases negative with
  | true => rfl
  | false =>
      cases digits with
      | nil => exact absurd rfl some
      | cons c digits =>
          have digit : c.isDigit := all c (List.mem_cons_self ..)
          have plain : c ≠ '-' := by
            intro same
            rw [same] at digit
            exact absurd digit (by decide)
          change minus (c :: (digits ++ rest)) = (false, c :: (digits ++ rest))
          unfold minus
          split
          · rename_i same
            exact absurd (List.cons.inj same).1 plain
          · rfl

theorem number?_pointed (negative : Bool) {d : Decimal} {chars whole fraction rest : List Char}
    (pointed : Pointed d chars whole fraction) (stop : rest.head?.any Char.isDigit = false) :
    number? ((sign negative).toList ++ chars ++ rest) = some (.number (d.round negative), rest) := by
  have text : (sign negative).toList ++ chars ++ rest =
      (sign negative).toList ++ (whole ++ '.' :: (fraction ++ rest)) := by
    rw [pointed.chars_eq]
    simp only [List.append_assoc, List.cons_append]
  have before : takeDigits (whole ++ '.' :: (fraction ++ rest)) =
      (whole, '.' :: (fraction ++ rest)) := takeDigits_append pointed.whole_digits rfl
  have behind : takeDigits (fraction ++ rest) = (fraction, rest) :=
    takeDigits_append pointed.fraction_digits stop
  unfold number?
  simp only [text, minus_sign pointed.whole_some pointed.whole_digits, before, behind,
    if_neg pointed.whole_some, if_neg pointed.fraction_some, pointed.value]

theorem number?_numeral {value : Binary64} {rest : List Char} (finite : value.isFinite)
    (stop : rest.head?.any Char.isDigit = false) :
    number? (numeral value ++ rest) = some (.number value, rest) := by
  obtain ⟨negative, d, chars, whole, fraction, written, pointed, rounded⟩ :=
    pointed_numeral finite
  rw [written, number?_pointed negative pointed stop, rounded]

theorem number?_integer (value : Int64) {rest : List Char}
    (stop : rest.head?.any Char.isDigit = false)
    (point : ∀ more, rest = '.' :: more → more.head?.any Char.isDigit = false) :
    number? ((Number.text value).toList ++ rest) = some (.integer value, rest) := by
  obtain ⟨negative, digits, text, some, all, signed⟩ := text_parts value
  have inRange : int64? value.toInt = .some value := by
    unfold int64?
    rw [if_pos ⟨Int64.le_toInt value, Int64.toInt_le value⟩, Int64.ofInt_toInt]
  have integer : ((int64? (if negative then -(Nat.ofDigitChars 10 digits 0 : Int)
      else Nat.ofDigitChars 10 digits 0)).map fun value => (Operand.integer value, rest)) =
        .some (.integer value, rest) := by
    rw [signed, inRange]
    rfl
  unfold number?
  simp only [text, List.append_assoc, minus_sign some all, takeDigits_append all stop, if_neg some]
  split
  · rename_i more
    have none : (takeDigits more).1 = [] := by
      have := point more rfl
      cases more with
      | nil => rfl
      | cons c more =>
          have plain : c.isDigit = false := by simpa using this
          simp [takeDigits, plain]
    rw [if_pos none]
    exact integer
  · exact integer

end Expression

end CorpusQuery
