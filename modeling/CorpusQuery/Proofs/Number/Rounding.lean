import CorpusQuery.Number.Decimal
import Mathlib.Tactic.Ring

namespace CorpusQuery.Number

/-! What rounding keeps: ratios that are values already, factors that a ratio can
lose, the sign, and trailing zeros of a numeral. -/

namespace Binary64

theorem divNearest_of_multiple (value : Nat) {step : Nat} (positive : 0 < step) :
    divNearest (value * step) step = value := by
  have exact : ¬(step < 2 * 0 ∨ 2 * 0 = step ∧ value % 2 = 1) := by omega
  unfold divNearest
  simp only [Nat.mul_div_cancel _ positive, Nat.mul_mod_left, if_neg exact]

theorem divNearest_cancel {factor : Nat} (positive : 0 < factor) (numerator denominator : Nat) :
    divNearest (factor * numerator) (factor * denominator) = divNearest numerator denominator := by
  have doubled (n : Nat) : 2 * (factor * n) = factor * (2 * n) := by ring
  unfold divNearest
  simp only [Nat.mul_div_mul_left _ _ positive, Nat.mul_mod_mul_left, doubled,
    Nat.mul_lt_mul_left positive, Nat.mul_right_inj (Nat.ne_of_gt positive)]

theorem ofRatio_cancel (negative : Bool) {factor : Nat} (positive : 0 < factor)
    (numerator denominator : Nat) :
    ofRatio negative (factor * numerator) (factor * denominator) =
      ofRatio negative numerator denominator := by
  unfold ofRatio
  simp only [Nat.mul_assoc, Nat.mul_div_mul_left _ _ positive, divNearest_cancel positive]

/-- The scale of a normal form can be told from the value it stands for. -/
theorem log2_of_normal {significand scale : Nat} (normal : Normal significand scale) :
    Nat.log2 (significand * Nat.pow 2 scale) - 52 = scale := by
  obtain ⟨small, -, least⟩ := normal
  change significand < 2 ^ 53 at small
  change significand < 2 ^ 52 → scale = 0 at least
  change Nat.log2 (significand * 2 ^ scale) - 52 = scale
  by_cases subnormal : significand < 2 ^ 52
  · rw [least subnormal]
    by_cases zero : significand = 0
    · simp [zero]
    · have : Nat.log2 significand < 52 := (Nat.log2_lt zero).2 subnormal
      rw [Nat.pow_zero, Nat.mul_one]
      omega
  · have some : significand ≠ 0 := by omega
    have log : Nat.log2 significand = 52 := by
      have below := (Nat.log2_lt some).2 small
      have above := (Nat.le_log2 some).2 (Nat.le_of_not_lt subnormal)
      omega
    have positive : significand * 2 ^ scale ≠ 0 :=
      Nat.mul_ne_zero some (Nat.ne_of_gt (Nat.two_pow_pos scale))
    have : Nat.log2 (significand * 2 ^ scale) = 52 + scale := by
      rw [Nat.log2_eq_iff positive]
      obtain ⟨lower, upper⟩ := (Nat.log2_eq_iff some).1 log
      rw [Nat.add_right_comm, Nat.pow_add, Nat.pow_add (n := scale)]
      exact ⟨Nat.mul_le_mul_right _ lower,
        (Nat.mul_lt_mul_right (Nat.two_pow_pos scale)).2 upper⟩
    omega

/-- A ratio that is a value already is not changed. -/
theorem ofRatio_exact (negative : Bool) {significand scale numerator denominator : Nat}
    (normal : Normal significand scale) (positive : 0 < denominator)
    (same : numerator * Nat.pow 2 1074 = denominator * (significand * Nat.pow 2 scale)) :
    ofRatio negative numerator denominator = .finite negative significand scale normal := by
  have step : 0 < Nat.pow 2 scale := Nat.two_pow_pos scale
  have inexact : significand ≠ Nat.pow 2 53 := Nat.ne_of_lt normal.1
  unfold ofRatio
  simp only [same, Nat.mul_div_cancel_left _ positive, log2_of_normal normal,
    divNearest_cancel positive, divNearest_of_multiple _ step, if_neg inexact]
  unfold ofParts
  rw [dif_pos normal]

theorem ofParts_of_finite {negative sign : Bool} {significand significand' scale scale' : Nat}
    {normal : Normal significand' scale'}
    (finite : ofParts negative significand scale = .finite sign significand' scale' normal) :
    significand = significand' ∧ scale = scale' := by
  unfold ofParts at finite
  split at finite
  · cases finite
    exact ⟨rfl, rfl⟩
  · simp at finite

theorem pow_two_split {small large : Nat} (ordered : small ≤ large) :
    Nat.pow 2 large = Nat.pow 2 (large - small) * Nat.pow 2 small := by
  change 2 ^ large = 2 ^ (large - small) * 2 ^ small
  rw [← Nat.pow_add, Nat.sub_add_cancel ordered]

/-- A natural stands for no fraction, even where it is rounded. -/
theorem whole_of_ofRatio {negative sign : Bool} {value significand scale : Nat}
    {normal : Normal significand scale}
    (finite : ofRatio negative value 1 = .finite sign significand scale normal) :
    Nat.pow 2 1074 ∣ significand * Nat.pow 2 scale := by
  have rounded (scale : Nat) :
      Nat.pow 2 1074 ∣ divNearest (value * Nat.pow 2 1074) (Nat.pow 2 scale) * Nat.pow 2 scale := by
    by_cases coarse : 1074 ≤ scale
    · have divides : Nat.pow 2 1074 ∣ Nat.pow 2 scale :=
        Dvd.intro_left _ (pow_two_split coarse).symm
      exact Dvd.dvd.mul_left divides _
    · have multiple : value * Nat.pow 2 1074 =
          value * Nat.pow 2 (1074 - scale) * Nat.pow 2 scale := by
        rw [pow_two_split (Nat.le_of_not_le coarse), Nat.mul_assoc]
      have step : 0 < Nat.pow 2 scale := Nat.two_pow_pos scale
      rw [multiple, divNearest_of_multiple _ step, ← multiple]
      exact Nat.dvd_mul_left _ _
  unfold ofRatio at finite
  simp only [Nat.div_one, Nat.one_mul] at finite
  split at finite
  · rename_i carried
    obtain ⟨rfl, rfl⟩ := ofParts_of_finite finite
    have := rounded (Nat.log2 (value * Nat.pow 2 1074) - 52)
    rw [carried] at this
    have shifted (n : Nat) : Nat.pow 2 53 * Nat.pow 2 n = Nat.pow 2 52 * Nat.pow 2 (n + 1) := by
      change 2 ^ 53 * 2 ^ n = 2 ^ 52 * 2 ^ (n + 1)
      ring
    rwa [shifted] at this
  · obtain ⟨rfl, rfl⟩ := ofParts_of_finite finite
    exact rounded _

/-- The same magnitude with this sign. -/
def withSign (negative : Bool) : Binary64 → Binary64
  | .finite _ significand scale normal => .finite negative significand scale normal
  | .infinite _ => .infinite negative
  | .nan => .nan

theorem ofParts_withSign (negative : Bool) (significand scale : Nat) :
    ofParts negative significand scale = (ofParts false significand scale).withSign negative := by
  unfold ofParts
  split <;> rfl

theorem ofRatio_withSign (negative : Bool) (numerator denominator : Nat) :
    ofRatio negative numerator denominator =
      (ofRatio false numerator denominator).withSign negative := by
  unfold ofRatio
  simp only
  split <;> exact ofParts_withSign negative _ _

end Binary64

namespace Decimal

theorem round_withSign (negative : Bool) (d : Decimal) :
    d.round negative = (d.round false).withSign negative := by
  unfold round
  simp only
  split
  · rfl
  · split
    · rfl
    · split <;> exact Binary64.ofRatio_withSign negative _ _

theorem lt_digitCount {n power : Nat} (reached : 10 ^ power ≤ n) : power < digitCount n := by
  by_cases zero : power = 0
  · rw [zero]
    exact Nat.length_toDigits_pos
  · apply Nat.lt_of_not_le
    intro short
    have := (Nat.length_toDigits_le_iff (by decide) (Nat.pos_of_ne_zero zero)).1 short
    omega

theorem digitCount_le {n power : Nat} (positive : 0 < power) (below : n < 10 ^ power) :
    digitCount n ≤ power :=
  (Nat.length_toDigits_le_iff (by decide) positive).2 below

theorem digitCount_mul_ten {n : Nat} (positive : 0 < n) :
    digitCount (10 * n) = digitCount n + 1 := by
  have appended : Nat.toDigits 10 n ++ Nat.toDigits 10 0 = Nat.toDigits 10 (10 * n + 0) :=
    Nat.toDigits_append_toDigits (by decide) positive (by decide)
  unfold digitCount
  rw [← Nat.add_zero (10 * n), ← appended, List.length_append, Nat.toDigits_zero]
  rfl

/-- A numeral with a fraction that is a value already is not changed. -/
theorem round_exact (negative : Bool) {d : Decimal} {significand scale : Nat}
    (normal : Normal significand scale) (some : d.digits ≠ 0) (fractional : d.exponent < 0)
    (lower : -330 ≤ d.exponent + digitCount d.digits)
    (upper : d.exponent + digitCount d.digits ≤ 330)
    (same : d.digits * Nat.pow 2 1074 =
      Nat.pow 10 (-d.exponent).toNat * (significand * Nat.pow 2 scale)) :
    d.round negative = .finite negative significand scale normal := by
  unfold round
  simp only
  rw [if_neg (by omega), if_neg (by omega), if_neg (by omega)]
  exact Binary64.ofRatio_exact negative normal (Nat.pow_pos (by decide)) same

/-- A trailing zero does not count. -/
theorem round_trailing (negative : Bool) {n : Nat} (positive : 0 < n) (exponent : Int) :
    round negative ⟨10 * n, exponent⟩ = round negative ⟨n, exponent + 1⟩ := by
  have magnitude : exponent + digitCount (10 * n) = exponent + 1 + digitCount n := by
    rw [digitCount_mul_ten positive]
    omega
  unfold round
  simp only [magnitude]
  have both : (10 * n = 0) = (n = 0) := by
    rw [Nat.mul_eq_zero]
    simp
  simp only [both]
  split
  · rfl
  split
  · rfl
  -- The zero goes into the power of ten, or else it is cancelled with one of the denominator.
  by_cases whole : 0 ≤ exponent
  · rw [if_pos whole, if_pos (by omega)]
    have power : (exponent + 1).toNat = exponent.toNat + 1 := by omega
    have same : 10 * n * Nat.pow 10 exponent.toNat = n * Nat.pow 10 (exponent + 1).toNat := by
      rw [power]
      change 10 * n * 10 ^ exponent.toNat = n * 10 ^ (exponent.toNat + 1)
      ring
    rw [same]
  · rw [if_neg whole]
    have power : Nat.pow 10 (-exponent).toNat = 10 * Nat.pow 10 (-(exponent + 1)).toNat := by
      have : (-exponent).toNat = (-(exponent + 1)).toNat + 1 := by omega
      rw [this]
      change 10 ^ ((-(exponent + 1)).toNat + 1) = 10 * 10 ^ (-(exponent + 1)).toNat
      ring
    rw [power, Binary64.ofRatio_cancel negative (by decide)]
    split
    · have last : exponent + 1 = 0 := by omega
      rw [last]
      simp
    · rfl

theorem round_strip (negative : Bool) (d : Decimal) : d.strip.round negative = d.round negative := by
  fun_induction strip d with
  | case1 | case3 => rfl
  | case2 d some trailing ih =>
      have tens : 10 * (d.digits / 10) = d.digits := by omega
      rw [ih, ← round_trailing negative (by omega), tens]

end Decimal

end CorpusQuery.Number
