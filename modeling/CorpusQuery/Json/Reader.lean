import CorpusQuery.Json.Value
import CorpusQuery.Number.Decimal

namespace CorpusQuery.Json

/-! JSON values read from text.

Every reader returns what it has not read, with a proof that this is shorter
than its input; the recursion over nested values ends by it. -/

/-- Why a text is no JSON value. -/
inductive Fault where
  | unexpectedEnd
  | unexpectedCharacter
  | invalidNumber
  | invalidEscape
  | trailingCharacters
deriving DecidableEq, Repr

namespace Fault

def message : Fault → String
  | .unexpectedEnd => "unexpected end of input"
  | .unexpectedCharacter => "unexpected character"
  | .invalidNumber => "invalid number"
  | .invalidEscape => "invalid escape"
  | .trailingCharacters => "trailing characters"

end Fault

/-- A value read from the start of `input`, and the rest. -/
structure Taken (α : Type) (input : List Char) where
  value : α
  rest : List Char
  shorter : rest.length < input.length

abbrev Reader (α : Type) := (input : List Char) → Except Fault (Taken α input)

def isSpace (c : Char) : Bool :=
  c == ' ' || c == '\n' || c == '\t' || c == '\r'

def skipSpace (chars : List Char) : List Char :=
  chars.dropWhile isSpace

theorem length_skipSpace_le (chars : List Char) : (skipSpace chars).length ≤ chars.length :=
  (List.dropWhile_suffix isSpace).length_le

/-! ### Texts -/

def hexValue? (c : Char) : Option Nat :=
  if c.isDigit then some (c.toNat - '0'.toNat)
  else if 'a' ≤ c ∧ c ≤ 'f' then some (c.toNat - 'a'.toNat + 10)
  else if 'A' ≤ c ∧ c ≤ 'F' then some (c.toNat - 'A'.toNat + 10)
  else none

def unit? (a b c d : Char) : Option Nat := do
  let a ← hexValue? a
  let b ← hexValue? b
  let c ← hexValue? c
  let d ← hexValue? d
  return ((a * 16 + b) * 16 + c) * 16 + d

/-- The character a letter stands for after a backslash. -/
def escape? : Char → Option Char
  | '"' => some '"'
  | '\\' => some '\\'
  | '/' => some '/'
  | 'b' => some '\x08'
  | 'f' => some '\x0c'
  | 'n' => some '\n'
  | 'r' => some '\r'
  | 't' => some '\t'
  | _ => none

/-- The character of a code unit that is no half of a surrogate pair. -/
def single? (unit : Nat) : Option Char :=
  if 0xD800 ≤ unit ∧ unit < 0xE000 then none else some (Char.ofNat unit)

/-- The character that two code units stand for together. -/
def pair? (high low : Nat) : Option Char :=
  if 0xD800 ≤ high ∧ high < 0xDC00 ∧ 0xDC00 ≤ low ∧ low < 0xE000 then
    some (Char.ofNat (0x10000 + (high - 0xD800) * 0x400 + (low - 0xDC00)))
  else none

/-- The characters of a text, unless there is a surrogate alone among them, and what
follows the text. -/
abbrev Body := Option (List Char) × List Char

/-- Puts a character before what was read; without one, nothing of the text is
usable. -/
def andThen (c : Option Char) : Except Fault Body → Except Fault Body
  | .ok (chars, rest) => .ok (c.bind fun c => chars.map (c :: ·), rest)
  | .error fault => .error fault

/-- The characters up to the closing quote, and what follows it.  Two escapes
that are a pair of surrogates stand for one character.  A control character is a
fault. -/
def textBody : List Char → Except Fault Body
  | [] => .error .unexpectedEnd
  | '"' :: rest => .ok (some [], rest)
  | '\\' :: 'u' :: a :: b :: c :: d :: '\\' :: 'u' :: e :: f :: g :: h :: rest =>
      match unit? a b c d with
      | none => .error .invalidEscape
      | some high =>
          match (unit? e f g h).bind (pair? high) with
          | some both => andThen (some both) (textBody rest)
          | none => andThen (single? high) (textBody ('\\' :: 'u' :: e :: f :: g :: h :: rest))
  | '\\' :: 'u' :: a :: b :: c :: d :: rest =>
      match unit? a b c d with
      | none => .error .invalidEscape
      | some unit => andThen (single? unit) (textBody rest)
  | '\\' :: c :: rest =>
      match escape? c with
      | some plain => andThen (some plain) (textBody rest)
      | none => .error .invalidEscape
  | c :: rest =>
      if c = '\\' then .error .unexpectedEnd
      else if c.toNat < 0x20 then .error .unexpectedCharacter
      else andThen (some c) (textBody rest)

/-! ### Numbers -/

/-- The largest natural of 64 bits. -/
def maxUnsigned : Nat := 18446744073709551615

/-- Digits gathered while they fit 64 bits, and how many were left out since. -/
structure Gathered where
  significand : Nat
  kept : Nat
  dropped : Nat

def Gathered.add (g : Gathered) (digit : Nat) : Gathered :=
  if g.dropped = 0 ∧ g.significand * 10 + digit ≤ maxUnsigned then
    { g with significand := g.significand * 10 + digit, kept := g.kept + 1 }
  else { g with dropped := g.dropped + 1 }

def gather (start : Nat) (digits : List Char) : Gathered :=
  digits.foldl (fun g c => g.add (c.toNat - '0'.toNat)) ⟨start, 0, 0⟩

/-- A value divided by a power of ten in steps of at most ten to the 308th, each
power and each quotient rounded. -/
def scaleDown (value : Number.Binary64) (power : Nat) : Number.Binary64 :=
  match value with
  | .finite negative significand _ _ =>
      if significand = 0 then value
      else if power ≤ 308 then
        .ofRatio negative value.units (Number.Binary64.powerOfTen power).units
      else
        scaleDown (.ofRatio negative value.units (Number.Binary64.powerOfTen 308).units)
          (power - 308)
  | other => other
termination_by power
decreasing_by omega

/-- A value multiplied by a power of ten, both the power and the product rounded, if
the product is in range. -/
def scaleUp? (value : Number.Binary64) (power : Nat) : Option Number.Binary64 :=
  match value with
  | .finite negative significand _ _ =>
      if significand = 0 then some value
      else if 308 < power then none
      else
        let scaled := Number.Binary64.ofRatio negative
          (value.units * (Number.Binary64.powerOfTen power).units) (Nat.pow 2 2148)
        if scaled.isFinite then some scaled else none
  | other => some other

/-- A fraction is its significand rounded, then multiplied or divided by a power
of ten and rounded again.  Out of range it is unusable. -/
def fractionOf (negative : Bool) (significand : Nat) (power : Int) : Json :=
  let start := Number.Binary64.ofRatio false significand 1
  let scaled :=
    if 0 ≤ power then scaleUp? start power.toNat else some (scaleDown start (-power).toNat)
  match scaled with
  | some value => .fraction (if negative then value.neg else value)
  | none => .unusable

/-- The part of a number after its significand: an exponent that is there, or
none. -/
structure Exponent (input : List Char) where
  power : Int
  rest : List Char
  notLonger : rest.length ≤ input.length

def exponentDigits (negative : Bool) (input : List Char) : Except Fault (Exponent input) :=
  let digits := input.takeWhile Char.isDigit
  let value : Int := Nat.ofDigitChars 10 digits 0
  if digits = [] then .error .invalidNumber
  else
    .ok ⟨if negative then -value else value, input.dropWhile Char.isDigit,
      (List.dropWhile_suffix Char.isDigit).length_le⟩

def Exponent.behind (drop : List Char) {input : List Char} (lead : drop ++ input = whole)
    (e : Exponent input) : Exponent whole :=
  ⟨e.power, e.rest, by have := e.notLonger; simp only [← lead, List.length_append]; omega⟩

def exponent? (input : List Char) : Except Fault (Option (Exponent input)) :=
  match input with
  | 'e' :: '-' :: rest => (exponentDigits true rest).map (some ∘ Exponent.behind ['e', '-'] rfl)
  | 'E' :: '-' :: rest => (exponentDigits true rest).map (some ∘ Exponent.behind ['E', '-'] rfl)
  | 'e' :: '+' :: rest => (exponentDigits false rest).map (some ∘ Exponent.behind ['e', '+'] rfl)
  | 'E' :: '+' :: rest => (exponentDigits false rest).map (some ∘ Exponent.behind ['E', '+'] rfl)
  | 'e' :: rest => (exponentDigits false rest).map (some ∘ Exponent.behind ['e'] rfl)
  | 'E' :: rest => (exponentDigits false rest).map (some ∘ Exponent.behind ['E'] rfl)
  | _ => .ok none

/-- The value of a number of the given parts.  A power of ten beyond 32 bits
leaves nothing of a small number and is out of range for a large one. -/
def numberOf (negative : Bool) (whole : Gathered) (fraction : Option Gathered)
    (power : Option Int) : Json :=
  match fraction, power with
  | none, none =>
      if whole.dropped ≠ 0 then fractionOf negative whole.significand whole.dropped
      else if ¬negative then .integer whole.significand
      else if whole.significand = 0 ∨ 9223372036854775808 < whole.significand then
        .fraction (Number.Binary64.ofRatio true whole.significand 1)
      else .integer (-whole.significand)
  | _, _ =>
      let significand := (fraction.getD whole).significand
      let before : Int := (whole.dropped : Int) - ((fraction.map (·.kept)).getD 0 : Nat)
      let power := power.getD 0
      if 2147483648 ≤ power.natAbs then
        if significand ≠ 0 ∧ 0 < power then .unusable else .fraction (.zero negative)
      else fractionOf negative significand (before + power)

/-- A number without its minus.  No zero leads other digits, and a point has
digits on both sides. -/
def number (negative : Bool) (input : List Char) : Except Fault (Taken Json input) :=
  let digits := input.takeWhile Char.isDigit
  if empty : digits = [] then .error .invalidNumber
  else if digits.head? = some '0' ∧ digits.length ≠ 1 then .error .invalidNumber
  else
    let whole := gather 0 digits
    let rest := input.dropWhile Char.isDigit
    have shorter : rest.length < input.length := by
      have parts : digits ++ rest = input := List.takeWhile_append_dropWhile
      have some : 0 < digits.length := List.length_pos_iff.2 empty
      rw [← parts, List.length_append]
      omega
    let finish (fraction : Option Gathered) (tail : List Char)
        (inner : tail.length ≤ rest.length) : Except Fault (Taken Json input) :=
      match exponent? tail with
      | .error fault => .error fault
      | .ok none => .ok ⟨numberOf negative whole fraction none, tail, by omega⟩
      | .ok (some e) =>
          .ok ⟨numberOf negative whole fraction (some e.power), e.rest, by
            have := e.notLonger; omega⟩
    match split : rest with
    | '.' :: more =>
        let digits := more.takeWhile Char.isDigit
        if digits = [] then .error .invalidNumber
        else
          finish (some (gather whole.significand digits)) (more.dropWhile Char.isDigit) (by
            have inner : (more.dropWhile Char.isDigit).length ≤ more.length :=
              (List.dropWhile_suffix Char.isDigit).length_le
            rw [split, List.length_cons]
            omega)
    | _ => finish none rest (Nat.le_refl _)

/-! ### Values -/

theorem length_of_skipSpace {input rest : List Char} {c : Char}
    (found : skipSpace input = c :: rest) : rest.length < input.length := by
  have whole := length_skipSpace_le input
  rw [found, List.length_cons] at whole
  omega

theorem andThen_eq_ok {c : Option Char} {read : Except Fault Body} {chars : Option (List Char)}
    {rest : List Char} (done : andThen c read = .ok (chars, rest)) :
    ∃ tail, read = .ok (tail, rest) := by
  match read, done with
  | .ok (tail, _), done =>
      obtain ⟨_, rfl⟩ : (c.bind fun c => tail.map (c :: ·)) = chars ∧ _ = rest := by
        simpa [andThen] using done
      exact ⟨tail, rfl⟩

theorem length_of_textBody {input : List Char} {chars : Option (List Char)} {rest : List Char}
    (read : textBody input = .ok (chars, rest)) : rest.length < input.length := by
  fun_induction textBody input generalizing chars with
  | case1 | case3 | case6 | case9 | case10 | case11 => simp at read
  | case2 => simp_all
  | case4 | case5 | case7 | case8 | case12 =>
      obtain ⟨tail, inner⟩ := andThen_eq_ok read
      rename_i ih
      have shorter := ih inner
      simp only [List.length_cons] at shorter ⊢
      omega

/-- The text of some characters. -/
def ofChars? : Option (List Char) → Json
  | some chars => .text (String.ofList chars)
  | none => .unusable

/-- An object of some fields. -/
def ofFields? : Option (List (String × Json)) → Json
  | some fields => .object fields
  | none => .unusable

mutual

/-- A value after optional white space. -/
def value (input : List Char) : Except Fault (Taken Json input) :=
  match found : skipSpace input with
  | [] => .error .unexpectedEnd
  | 'n' :: 'u' :: 'l' :: 'l' :: rest =>
      .ok ⟨.null, rest, by have := length_of_skipSpace found; simp at this; omega⟩
  | 't' :: 'r' :: 'u' :: 'e' :: rest =>
      .ok ⟨.bool true, rest, by have := length_of_skipSpace found; simp at this; omega⟩
  | 'f' :: 'a' :: 'l' :: 's' :: 'e' :: rest =>
      .ok ⟨.bool false, rest, by have := length_of_skipSpace found; simp at this; omega⟩
  | '"' :: rest =>
      match read : textBody rest with
      | .ok (chars, tail) =>
          .ok ⟨ofChars? chars, tail, by
            have := length_of_skipSpace found
            have := length_of_textBody read
            omega⟩
      | .error fault => .error fault
  | '[' :: rest =>
      have := length_of_skipSpace found
      match ended : skipSpace rest with
      | ']' :: tail =>
          .ok ⟨.list [], tail, by have := length_of_skipSpace ended; omega⟩
      | _ => (items rest).map fun read => ⟨.list read.value, read.rest, by
          have := read.shorter; omega⟩
  | '\x7b' :: rest =>
      have := length_of_skipSpace found
      match ended : skipSpace rest with
      | '\x7d' :: tail =>
          .ok ⟨.object [], tail, by have := length_of_skipSpace ended; omega⟩
      | _ => (fields rest).map fun read => ⟨ofFields? read.value, read.rest, by
          have := read.shorter; omega⟩
  | '-' :: rest =>
      (number true rest).map fun read => ⟨read.value, read.rest, by
        have := length_of_skipSpace found
        have := read.shorter
        omega⟩
  | _ =>
      (number false (skipSpace input)).map fun read => ⟨read.value, read.rest, by
        have := length_skipSpace_le input
        have := read.shorter
        omega⟩
termination_by (input.length, 1)

/-- Values with commas between them, up to the closing bracket. -/
def items (input : List Char) : Except Fault (Taken (List Json) input) :=
  match value input with
  | .error fault => .error fault
  | .ok first =>
      have := first.shorter
      match next : skipSpace first.rest with
      | ',' :: rest =>
          have := length_of_skipSpace next
          (items rest).map fun more => ⟨first.value :: more.value, more.rest, by
            have := more.shorter; omega⟩
      | ']' :: rest =>
          .ok ⟨[first.value], rest, by have := length_of_skipSpace next; omega⟩
      | [] => .error .unexpectedEnd
      | _ => .error .unexpectedCharacter
termination_by (input.length, 2)

/-- Names and values with commas between them, up to the closing brace; nothing if a
name is unusable. -/
def fields (input : List Char) : Except Fault (Taken (Option (List (String × Json))) input) :=
  match start : skipSpace input with
  | '"' :: rest =>
      have := length_of_skipSpace start
      match read : textBody rest with
      | .error fault => .error fault
      | .ok (chars, tail) =>
          have := length_of_textBody read
          match colon : skipSpace tail with
          | ':' :: rest =>
              have := length_of_skipSpace colon
              match value rest with
              | .error fault => .error fault
              | .ok first =>
                  have := first.shorter
                  match next : skipSpace first.rest with
                  | ',' :: rest =>
                      have := length_of_skipSpace next
                      (fields rest).map fun more =>
                        ⟨chars.bind fun chars =>
                            more.value.map ((String.ofList chars, first.value) :: ·),
                          more.rest, by have := more.shorter; omega⟩
                  | '\x7d' :: rest =>
                      .ok ⟨chars.map fun chars => [(String.ofList chars, first.value)], rest, by
                        have := length_of_skipSpace next; omega⟩
                  | [] => .error .unexpectedEnd
                  | _ => .error .unexpectedCharacter
          | [] => .error .unexpectedEnd
          | _ => .error .unexpectedCharacter
  | [] => .error .unexpectedEnd
  | _ => .error .unexpectedCharacter
termination_by (input.length, 2)

end

/-- The value at the start of a text, and what follows it. -/
def parseStart (text : String) : Except Fault (Json × List Char) :=
  (value text.toList).map fun read => (read.value, read.rest)

/-- Only white space may follow a value. -/
def finished (rest : List Char) : Except Fault Unit :=
  if (skipSpace rest).isEmpty then .ok () else .error .trailingCharacters

/-- Reads a text that holds one value and nothing else. -/
def parse (text : String) : Except Fault Json := do
  let (json, rest) ← parseStart text
  finished rest
  return json

end CorpusQuery.Json
