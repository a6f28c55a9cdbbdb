import CorpusQuery.Number.Binary64

namespace CorpusQuery.Number

/-! Decimal numerals: their rounding to binary values, the shortest numeral that
rounds to a given value, and numerals as text. -/

/-- The value `digits` times ten to the `exponent`. -/
structure Decimal where
  digits : Nat
  exponent : Int
deriving DecidableEq, Repr

namespace Decimal

def digitCount (n : Nat) : Nat :=
  (Nat.toDigits 10 n).length

/-- The binary value nearest to the numeral.  Numerals far outside the binary
range are settled by their order of magnitude. -/
def round (negative : Bool) (d : Decimal) : Binary64 :=
  let magnitude := d.exponent + digitCount d.digits
  if d.digits = 0 ∨ magnitude < -330 then .zero negative
  else if 330 < magnitude then .infinite negative
  else if 0 ≤ d.exponent then .ofRatio negative (d.digits * Nat.pow 10 d.exponent.toNat) 1
  else .ofRatio negative d.digits (Nat.pow 10 (-d.exponent).toNat)

/-- The same value with no trailing zero among its digits. -/
def strip (d : Decimal) : Decimal :=
  if d.digits = 0 then d
  else if d.digits % 10 = 0 then strip ⟨d.digits / 10, d.exponent + 1⟩ else d
termination_by d.digits
decreasing_by omega

/-- Which of two numerals is taken when a value lies halfway between them. -/
inductive Tie where
  | up
  | even
deriving DecidableEq, Repr

/-- The finite value `significand` times two to the `scale - 1074`, as a ratio of
naturals. -/
def ratio (significand scale : Nat) : Nat × Nat :=
  (significand * Nat.pow 2 scale, Nat.pow 2 1074)

/-- The power of ten at or just below a positive ratio. -/
def magnitude (numerator denominator : Nat) : Int :=
  if denominator ≤ numerator then (digitCount (numerator / denominator) : Int) - 1
  else
    let guess := digitCount (denominator / numerator)
    if denominator ≤ numerator * Nat.pow 10 (guess - 1) then 1 - (guess : Int) else -(guess : Int)

/-- The neighbours of a positive ratio among the multiples of ten to the
`exponent`, and how twice the distance to the lower one compares with a step. -/
def neighbours (numerator denominator : Nat) (exponent : Int) : Decimal × Decimal × Ordering :=
  let top := if exponent < 0 then numerator * Nat.pow 10 (-exponent).toNat else numerator
  let step := if exponent < 0 then denominator else denominator * Nat.pow 10 exponent.toNat
  let below := top / step
  (⟨below, exponent⟩, ⟨below + 1, exponent⟩, compare (2 * (top % step)) step)

/-- The nearer of the two neighbours with this many digits that round back to the
value, if one of them does. -/
def withDigits? (tie : Tie) (significand scale count : Nat) : Option Decimal :=
  let (numerator, denominator) := ratio significand scale
  let exponent := magnitude numerator denominator + 1 - (count : Int)
  let (below, above, half) := neighbours numerator denominator exponent
  let value := Binary64.ofParts false significand scale
  match decide (below.round false = value), decide (above.round false = value) with
  | true, true =>
      match half with
      | .lt => some below
      | .gt => some above
      | .eq =>
          match tie with
          | .up => some above
          | .even => if below.digits % 2 = 0 then some below else some above
  | true, false => some below
  | false, true => some above
  | false, false => none

/-- The numeral that is exactly the value. -/
def exact (significand scale : Nat) : Decimal :=
  if 1074 ≤ scale then ⟨significand * Nat.pow 2 (scale - 1074), 0⟩
  else ⟨significand * Nat.pow 5 (1074 - scale), (scale : Int) - 1074⟩

/-- The numeral with the fewest digits that rounds to the positive value
`significand` times two to the `scale - 1074`, and of those the nearest.
Seventeen digits always suffice. -/
def shortest (tie : Tie) (significand scale : Nat) : Decimal :=
  strip ((List.range 17).findSome? (fun n => withDigits? tie significand scale (n + 1))
    |>.getD (exact significand scale))

end Decimal

end CorpusQuery.Number
