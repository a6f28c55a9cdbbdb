import CorpusQuery.Number.Decimal

namespace CorpusQuery.Number

/-! Numbers as text: a positional form without exponent, in which values are
listed, and the form of numbers in JSON. -/

def sign (negative : Bool) : String :=
  if negative then "-" else ""

def zeros (count : Nat) : List Char :=
  List.replicate count '0'

namespace Decimal

/-- Digits with a point at its place, and no point in a whole number. -/
def positional (d : Decimal) : String :=
  let digits := Nat.toDigits 10 d.digits
  let point := (digits.length : Int) + d.exponent
  String.ofList <|
    if 0 ≤ d.exponent then digits ++ zeros d.exponent.toNat
    else if 0 < point then digits.take point.toNat ++ '.' :: digits.drop point.toNat
    else ['0', '.'] ++ zeros (-point).toNat ++ digits

/-- One digit before the point, the power of ten after an `e`, its sign always
written. -/
def scientific (d : Decimal) : String :=
  let digits := Nat.toDigits 10 d.digits
  let power := (digits.length : Int) + d.exponent - 1
  let mantissa := digits.take 1 ++ (if digits.length ≤ 1 then [] else '.' :: digits.drop 1)
  String.ofList mantissa ++ "e" ++ (if power < 0 then "-" else "+") ++ toString power.natAbs

end Decimal

namespace Binary64

/-- The shortest numeral that reads back, without exponent and without a point in
a whole number; of two numerals equally near, the larger. -/
def text : Binary64 → String
  | .finite negative significand scale _ =>
      if significand = 0 then sign negative ++ "0"
      else sign negative ++ (Decimal.shortest .up significand scale).positional
  | .infinite negative => sign negative ++ "inf"
  | .nan => "NaN"

/-- The shortest numeral that reads back, with a point or an exponent, so that it
does not read as an integer: positional from 0.00001 up to ten to the sixteenth,
scientific outside.  Of two numerals equally near, the even one is taken.  There
is none for what is not finite. -/
def json? : Binary64 → Option String
  | .finite negative significand scale _ =>
      if significand = 0 then some (sign negative ++ "0.0")
      else
        let d := Decimal.shortest .even significand scale
        let point := (Decimal.digitCount d.digits : Int) + d.exponent
        some <| sign negative ++
          (if 16 < point ∨ point < -4 then d.scientific
           else if 0 ≤ d.exponent then d.positional ++ ".0"
           else d.positional)
  | _ => none

end Binary64

end CorpusQuery.Number
