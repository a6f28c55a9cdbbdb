import CorpusQuery.Number.Decimal

namespace CorpusQuery.Number

/-! Numbers read from text: an optional sign, then digits with an optional point
and an optional power of ten, or one of the words for infinity and for no
number. -/

/-- The digits at the start of a text, and the rest. -/
def takeDigits (chars : List Char) : List Char × List Char :=
  (chars.takeWhile Char.isDigit, chars.dropWhile Char.isDigit)

/-- A power of ten, `e` or `E` and an integer, that takes up the whole text; an
empty text is the power zero. -/
def exponent? : List Char → Option Int
  | [] => some 0
  | mark :: chars =>
      if mark = 'e' ∨ mark = 'E' then
        let (negative, digits) :=
          match chars with
          | '-' :: digits => (true, digits)
          | '+' :: digits => (false, digits)
          | digits => (false, digits)
        if digits ≠ [] ∧ digits.all Char.isDigit then
          let value : Int := Nat.ofDigitChars 10 digits 0
          some (if negative then -value else value)
        else none
      else none

/-- The numeral that takes up the whole text, with at least one digit before or
after its point. -/
def decimal? (chars : List Char) : Option Decimal :=
  let (whole, rest) := takeDigits chars
  let (fraction, rest) :=
    match rest with
    | '.' :: more => takeDigits more
    | more => ([], more)
  if whole = [] ∧ fraction = [] then none
  else
    (exponent? rest).map fun power =>
      ⟨Nat.ofDigitChars 10 (whole ++ fraction) 0, power - fraction.length⟩

/-- The number a text without sign stands for. -/
def magnitude? (negative : Bool) (chars : List Char) : Option Binary64 :=
  let word := String.ofList (chars.map Char.toLower)
  if word = "inf" ∨ word = "infinity" then some (.infinite negative)
  else if word = "nan" then some .nan
  else (decimal? chars).map (Decimal.round negative)

/-- The number a text stands for. -/
def binary64? : List Char → Option Binary64
  | '-' :: chars => magnitude? true chars
  | '+' :: chars => magnitude? false chars
  | chars => magnitude? false chars

end CorpusQuery.Number
