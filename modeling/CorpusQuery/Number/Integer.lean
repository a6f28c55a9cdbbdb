namespace CorpusQuery.Number

/-! Integers of 64 bits in decimal text. -/

def least : Int := -9223372036854775808

def greatest : Int := 9223372036854775807

/-- The 64-bit integer of value `n`, if there is one. -/
def int64? (n : Int) : Option Int64 :=
  if least ≤ n ∧ n ≤ greatest then some (Int64.ofInt n) else none

theorem toInt_of_int64? {n : Int} {word : Int64} (found : int64? n = some word) :
    word.toInt = n := by
  unfold int64? at found
  split at found
  · rename_i inRange
    obtain rfl : Int64.ofInt n = word := by simpa using found
    exact Int64.toInt_ofInt_of_le inRange.1 (Int.lt_add_one_of_le inRange.2)
  · simp at found

/-- Decimal text, with a minus before a negative value. -/
def text (n : Int64) : String :=
  toString n.toInt

/-- The value of a text that has at least one digit and nothing else. -/
def natural? (chars : List Char) : Option Nat :=
  if chars ≠ [] ∧ chars.all Char.isDigit then some (Nat.ofDigitChars 10 chars 0) else none

/-- The value of a text of digits, if 64 bits hold it. -/
def unsigned? (chars : List Char) : Option Int64 :=
  (natural? chars).bind fun n => int64? n

/-- The value of a text of digits with an optional minus, if 64 bits hold it. -/
def signed? : List Char → Option Int64
  | '-' :: chars => (natural? chars).bind fun n => int64? (-n)
  | chars => unsigned? chars

/-- Why a text is no integer of 64 bits. -/
inductive Fault where
  | empty
  | notDigit
  | tooLarge
  | tooSmall
deriving DecidableEq, Repr

namespace Fault

def message : Fault → String
  | .empty => "cannot parse integer from empty string"
  | .notDigit => "invalid digit found in string"
  | .tooLarge => "number too large to fit in target type"
  | .tooSmall => "number too small to fit in target type"

end Fault

/-- Digits read on from `value`, away from zero.  The first character that is
no digit, or with which the value leaves the 64-bit range, is the fault. -/
def readDigits (negative : Bool) (value : Int) : List Char → Except Fault Int
  | [] => .ok value
  | c :: rest =>
      if c.isDigit then
        let digit : Int := Nat.ofDigitChars 10 [c] 0
        let next := if negative then 10 * value - digit else 10 * value + digit
        if next < least then .error .tooSmall
        else if greatest < next then .error .tooLarge
        else readDigits negative next rest
      else .error .notDigit

/-- Reads digits with an optional sign of either kind. -/
def read : List Char → Except Fault Int64
  | [] => .error .empty
  | ['-'] => .error .notDigit
  | ['+'] => .error .notDigit
  | '-' :: chars => (readDigits true 0 chars).map Int64.ofInt
  | '+' :: chars => (readDigits false 0 chars).map Int64.ofInt
  | chars => (readDigits false 0 chars).map Int64.ofInt

end CorpusQuery.Number
