import StreamLinks.Text.Double
import StreamLinks.Text.Integer

/-!
# JSON numbers

A number is an integer part without leading zeros, an optional fraction and
an optional exponent.  It also has to lie in the range of double precision,
once its digits have been cut off where they no longer fit 64 bits.
-/

namespace StreamLinks.Json

/-- A decimal number: its sign, its digits, and the power of ten behind them. -/
structure Numeral where
  negative : Bool
  whole : List Char
  fraction : List Char
  exponent : Int

/-- Adds digits to a significand while it fits 64 bits; the digits that are
left over are handed back. -/
def addDigits (significand : Nat) : List Char → Nat × List Char
  | [] => (significand, [])
  | digit :: rest =>
      let next := 10 * significand + (digit.toNat - '0'.toNat)
      if next < Nat.pow 2 64 then addDigits next rest else (significand, digit :: rest)

/-- The number lies in the range of double precision. -/
def Numeral.fits (numeral : Numeral) : Bool :=
  let (significand, cut) := addDigits 0 numeral.whole
  let (significand, cutFraction) := addDigits significand numeral.fraction
  let exponent :=
    numeral.exponent + cut.length - (numeral.fraction.length - cutFraction.length : Nat)
  if significand = 0 ∨ exponent < 0 then true
  else if 308 < exponent then false
  else Text.roundToDouble significand * Text.roundToDouble (Nat.pow 10 exponent.toNat)
      < Text.doubleLimit

/-- The digits at the front of a text, of which there has to be one, and the
text after them. -/
def readDigits? (text : List Char) : Option (List Char × List Char) :=
  match text.takeWhile Char.isDigit with
  | [] => none
  | digits => some (digits, text.dropWhile Char.isDigit)

/-- The sign at the front of a text, when it is `-`, and the text after it. -/
def readMinus : List Char → Bool × List Char
  | '-' :: rest => (true, rest)
  | text => (false, text)

/-- The fraction at the front of a text, if any. -/
def readFraction? : List Char → Option (List Char × List Char)
  | '.' :: rest => readDigits? rest
  | text => some ([], text)

/-- The exponent at the front of a text, if any. -/
def readExponent? : List Char → Option (Int × List Char)
  | c :: rest =>
      if c = 'e' ∨ c = 'E' then
        let (negative, unsigned) :=
          match rest with
          | '+' :: rest => (false, rest)
          | rest => readMinus rest
        (readDigits? unsigned).map fun (digits, rest) =>
          let size : Int := Text.natOfDigits digits
          (if negative then -size else size, rest)
      else some (0, c :: rest)
  | [] => some (0, [])

/-- The number at the front of a text, and the text after it. -/
def readNumeral? (text : List Char) : Option (Numeral × List Char) := do
  let (negative, text) := readMinus text
  let (whole, text) ← readDigits? text
  if whole.head? = some '0' ∧ whole.length ≠ 1 then none
  let (fraction, text) ← readFraction? text
  let (exponent, text) ← readExponent? text
  return ({ negative, whole, fraction, exponent }, text)

end StreamLinks.Json
