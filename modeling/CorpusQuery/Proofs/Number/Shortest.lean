import CorpusQuery.Number.Written
import CorpusQuery.Proofs.Number.Rounding

namespace CorpusQuery.Number

/-! The shortest numeral of a value reads back as the value, and for a value with a
fraction it has digits on both sides of its point. -/

namespace Decimal

theorem round_of_withDigits? {tie : Tie} {significand scale count : Nat} {d : Decimal}
    (normal : Normal significand scale)
    (found : withDigits? tie significand scale count = some d) :
    d.round false = .finite false significand scale normal := by
  have value : Binary64.ofParts false significand scale =
      .finite false significand scale normal := by
    unfold Binary64.ofParts
    rw [dif_pos normal]
  unfold withDigits? at found
  simp only [value] at found
  split at found
  · rename_i below above
    have below := of_decide_eq_true below
    have above := of_decide_eq_true above
    split at found
    · cases found
      exact below
    · cases found
      exact above
    · split at found
      · cases found
        exact above
      · split at found
        · cases found
          exact below
        · cases found
          exact above
  · rename_i below _
    cases found
    exact of_decide_eq_true below
  · rename_i _ above
    cases found
    exact of_decide_eq_true above
  · simp at found

theorem two_pow_le_five_pow (n : Nat) : 2 ^ (16 * n) ≤ 5 ^ (7 * n) := by
  rw [Nat.pow_mul, Nat.pow_mul]
  exact Nat.pow_le_pow_left (by decide) n

section

variable {significand power : Nat}

/-- Seven factors of five outweigh sixteen of two: a few hundred of them make tens of all the
others. -/
theorem lt_digitCount_mul_five_pow (positive : 0 < significand) (bound : power ≤ 1074) :
    power - 331 < digitCount (significand * 5 ^ power) := by
  apply lt_digitCount
  by_cases few : power ≤ 331
  · rw [Nat.sub_eq_zero_of_le few, Nat.pow_zero]
    exact Nat.mul_pos positive (Nat.pow_pos (by decide))
  · obtain ⟨n, blocks⟩ : ∃ n, n = (power - 331) / 16 + 1 := ⟨_, rfl⟩
    calc
      10 ^ (power - 331) = 2 ^ (power - 331) * 5 ^ (power - 331) := by rw [← Nat.mul_pow]
      _ ≤ 2 ^ (16 * n) * 5 ^ (power - 331) :=
        Nat.mul_le_mul_right _ (Nat.pow_le_pow_right (by decide) (by omega))
      _ ≤ 5 ^ (7 * n) * 5 ^ (power - 331) := Nat.mul_le_mul_right _ (two_pow_le_five_pow n)
      _ = 5 ^ (7 * n + (power - 331)) := (Nat.pow_add 5 _ _).symm
      _ ≤ 5 ^ power := Nat.pow_le_pow_right (by decide) (by omega)
      _ ≤ significand * 5 ^ power := Nat.le_mul_of_pos_left _ positive

theorem digitCount_mul_five_pow_le (size : significand < 10 ^ 16) :
    digitCount (significand * 5 ^ power) ≤ 16 + power := by
  apply digitCount_le (by omega)
  calc
    significand * 5 ^ power < 10 ^ 16 * 5 ^ power :=
      (Nat.mul_lt_mul_right (Nat.pow_pos (by decide))).2 size
    _ ≤ 10 ^ 16 * 10 ^ power := Nat.mul_le_mul_left _ (Nat.pow_le_pow_left (by decide) power)
    _ = 10 ^ (16 + power) := (Nat.pow_add 10 16 power).symm

end

theorem round_of_exact {significand scale : Nat} (normal : Normal significand scale)
    (positive : 0 < significand) (fine : scale < 1074) :
    (exact significand scale).round false = .finite false significand scale normal := by
  obtain ⟨power, places⟩ : ∃ power, power = 1074 - scale := ⟨_, rfl⟩
  have numeral : exact significand scale = ⟨significand * Nat.pow 5 power, -(power : Int)⟩ := by
    have negated : (scale : Int) - 1074 = -(power : Int) := by omega
    unfold exact
    rw [if_neg (by omega), ← places, negated]
  have many : power - 331 < digitCount (significand * Nat.pow 5 power) :=
    lt_digitCount_mul_five_pow positive (by omega)
  have few : digitCount (significand * Nat.pow 5 power) ≤ 16 + power :=
    digitCount_mul_five_pow_le (Nat.lt_trans normal.1 (by decide))
  have some : significand * Nat.pow 5 power ≠ 0 :=
    Nat.ne_of_gt (Nat.mul_pos positive (Nat.pow_pos (by decide)))
  rw [numeral]
  apply round_exact false normal some
  · simp only
    omega
  · simp only
    omega
  · simp only
    omega
  · have cancelled : (-(-(power : Int))).toNat = power := by omega
    have whole := @Binary64.pow_two_split scale 1074 (Nat.le_of_lt fine)
    rw [← places] at whole
    have tens : Nat.pow 10 power = Nat.pow 2 power * Nat.pow 5 power := Nat.mul_pow 2 5 power
    change significand * Nat.pow 5 power * Nat.pow 2 1074 =
      Nat.pow 10 (-(-(power : Int))).toNat * (significand * Nat.pow 2 scale)
    rw [cancelled, whole, tens]
    ring

theorem round_shortest (tie : Tie) (negative : Bool) {significand scale : Nat}
    (normal : Normal significand scale) (positive : 0 < significand) (fine : scale < 1074) :
    (shortest tie significand scale).round negative =
      .finite negative significand scale normal := by
  have unsigned : (shortest tie significand scale).round false =
      .finite false significand scale normal := by
    unfold shortest
    rw [round_strip]
    cases found : (List.range 17).findSome? fun n => withDigits? tie significand scale (n + 1) with
    | none => exact round_of_exact normal positive fine
    | some d =>
        obtain ⟨count, _, chosen⟩ := List.exists_of_findSome?_eq_some found
        exact round_of_withDigits? normal chosen
  rw [round_withSign, unsigned]
  rfl

/-- A numeral without places after its point stands for a whole number. -/
theorem whole_of_round {d : Decimal} {significand scale : Nat} {normal : Normal significand scale}
    (whole : 0 ≤ d.exponent) (value : d.round false = .finite false significand scale normal) :
    Nat.pow 2 1074 ∣ significand * Nat.pow 2 scale := by
  unfold round at value
  simp only at value
  split at value
  · cases value
    rw [Nat.zero_mul]
    exact Nat.dvd_zero _
  · split at value
    · cases value
    · exact Binary64.whole_of_ofRatio value

theorem shortest_fractional (tie : Tie) {significand scale : Nat}
    (normal : Normal significand scale) (positive : 0 < significand)
    (fraction : ¬Nat.pow 2 1074 ∣ significand * Nat.pow 2 scale) (fine : scale < 1074) :
    (shortest tie significand scale).exponent < 0 := by
  apply Int.lt_of_not_ge
  intro whole
  exact fraction (whole_of_round whole (round_shortest tie false normal positive fine))

end Decimal

end CorpusQuery.Number
