namespace CorpusQuery.Number

/-! Binary floating-point numbers of 64 bits as exact values, and the rounding
of a ratio of naturals to the nearest of them. -/

/-- Whether `significand` times two to the `scale - 1074` is the one normal form
of a finite value: 53 bits at most, fewer than 53 only at the smallest scale. -/
def Normal (significand scale : Nat) : Prop :=
  significand < Nat.pow 2 53 ∧ scale ≤ 2045 ∧ (significand < Nat.pow 2 52 → scale = 0)

instance (significand scale : Nat) : Decidable (Normal significand scale) :=
  inferInstanceAs (Decidable (_ ∧ _ ∧ (_ → _)))

/-- A finite value is plus or minus `significand` times two to the
`scale - 1074`. -/
inductive Binary64 where
  | finite (negative : Bool) (significand scale : Nat) (normal : Normal significand scale)
  | infinite (negative : Bool)
  | nan
deriving DecidableEq

namespace Binary64

def zero (negative : Bool) : Binary64 :=
  .finite negative 0 0 (by decide)

instance : Inhabited Binary64 := ⟨zero false⟩

/-- The value with these parts, or the infinity of its sign if they exceed the
range. -/
def ofParts (negative : Bool) (significand scale : Nat) : Binary64 :=
  if normal : Normal significand scale then .finite negative significand scale normal
  else .infinite negative

/-- The natural nearest to `numerator / denominator`; a half goes to the even
neighbour. -/
def divNearest (numerator denominator : Nat) : Nat :=
  let quotient := numerator / denominator
  let twice := 2 * (numerator % denominator)
  if denominator < twice ∨ (twice = denominator ∧ quotient % 2 = 1) then quotient + 1
  else quotient

/-- The value nearest to `numerator / denominator`; of two values equally near,
the one with an even significand.  Ratios from half a unit above the largest
finite value on are infinite. -/
def ofRatio (negative : Bool) (numerator denominator : Nat) : Binary64 :=
  let scaled := numerator * Nat.pow 2 1074
  let scale := Nat.log2 (scaled / denominator) - 52
  let significand := divNearest scaled (denominator * Nat.pow 2 scale)
  if significand = Nat.pow 2 53 then ofParts negative (Nat.pow 2 52) (scale + 1)
  else ofParts negative significand scale

def isFinite : Binary64 → Bool
  | .finite .. => true
  | _ => false

/-- A finite value without its sign, in units of two to the `-1074`. -/
def units : Binary64 → Nat
  | .finite _ significand scale _ => significand * Nat.pow 2 scale
  | _ => 0

/-- The value nearest to a power of ten. -/
def powerOfTen (power : Nat) : Binary64 :=
  ofRatio false (Nat.pow 10 power) 1

/-- The value with the opposite sign. -/
def neg : Binary64 → Binary64
  | .finite negative significand scale normal => .finite (!negative) significand scale normal
  | .infinite negative => .infinite (!negative)
  | .nan => .nan

/-- The integer that a finite value without fraction stands for, without its
sign. -/
def wholePart? : Binary64 → Option Nat
  | .finite negative significand scale normal =>
      let scaled := (finite negative significand scale normal).units
      if scaled % Nat.pow 2 1074 = 0 then some (scaled / Nat.pow 2 1074) else none
  | _ => none

end Binary64

end CorpusQuery.Number
