import StreamLinks.Text.Double
import StreamLinks.Text.Integer
import StreamLinks.Text.Pieces
import StreamLinks.Text.Reader
import StreamLinks.Toml.Value

/-!
# Numbers, booleans and dates in TOML

A scalar is a run of letters, digits and the characters `_+-.:`, and has to
be one of the written forms as a whole.  Only a date and its time may have
one space between them.
-/

namespace StreamLinks.Toml

open Text (Reader)

/-- The digits of a text in which single underscores may stand between digits. -/
def groupedDigits? (isDigit : Char → Bool) : List Char → Option (List Char)
  | [] => none
  | [c] => if isDigit c then some [c] else none
  | c :: '_' :: rest =>
      if isDigit c then (groupedDigits? isDigit rest).map (c :: ·) else none
  | c :: rest =>
      if isDigit c then (groupedDigits? isDigit rest).map (c :: ·) else none

/-- Decimal digits without a superfluous zero in front. -/
def decimal? (text : List Char) : Option (List Char) := do
  let digits ← groupedDigits? Char.isDigit text
  if digits.head? = some '0' ∧ digits.length ≠ 1 then none
  return digits

/-- A sign in front of a text, if any: whether it is `-`, and the rest. -/
def splitSign : List Char → Bool × List Char
  | '-' :: rest => (true, rest)
  | '+' :: rest => (false, rest)
  | text => (false, text)

/-- The number that digits write in a base up to sixteen. -/
def radixNumber? (base : Nat) (text : List Char) : Option Nat := do
  let isDigit := fun c => (Text.hexValue? c).any (· < base)
  let digits ← groupedDigits? isDigit text
  return digits.foldl (fun n c => base * n + (Text.hexValue? c).getD 0) 0

def integer? : List Char → Option Int
  | '0' :: 'x' :: digits => (radixNumber? 16 digits).map fun n => (n : Int)
  | '0' :: 'o' :: digits => (radixNumber? 8 digits).map fun n => (n : Int)
  | '0' :: 'b' :: digits => (radixNumber? 2 digits).map fun n => (n : Int)
  | text =>
      let (negative, unsigned) := splitSign text
      (decimal? unsigned).map fun digits =>
        let n : Int := Text.natOfDigits digits
        if negative then -n else n

/-- Integers beyond 128 bits are refused: negative ones as signed, the others
as unsigned. -/
def integerFits (n : Int) : Bool :=
  -(Nat.pow 2 127 : Int) ≤ n && n < (Nat.pow 2 128 : Int)

/-- `significand · 10 ^ exponent` is below the limit of double precision. -/
def floatFits (significand : Nat) (exponent : Int) : Bool :=
  let magnitude := (Nat.toDigits 10 significand).length + exponent
  if significand = 0 ∨ magnitude ≤ 308 then true
  else if 310 < magnitude then false
  else if 0 ≤ exponent then significand * Nat.pow 10 exponent.toNat < Text.doubleLimit
  else significand < Text.doubleLimit * Nat.pow 10 exponent.natAbs

/-- The text is a float with a fraction, an exponent or both, in range. -/
def isFloat (text : List Char) : Bool :=
  let (_, unsigned) := splitSign text
  let isMark := fun c => c == 'e' || c == 'E'
  let mantissa := unsigned.takeWhile (! isMark ·)
  let exponent? : Option Int :=
    match unsigned.dropWhile (! isMark ·) with
    | [] => some 0
    | _ :: power =>
        let (negative, digits) := splitSign power
        (groupedDigits? Char.isDigit digits).map fun digits =>
          let n : Int := Text.natOfDigits digits
          if negative then -n else n
  let digits? : Option (List Char × List Char) :=
    match Text.cutAt? '.' mantissa with
    | none => (decimal? mantissa).map (·, [])
    | some (whole, fraction) => do
        return (← decimal? whole, ← groupedDigits? Char.isDigit fraction)
  match exponent?, digits? with
  | some exponent, some (whole, fraction) =>
      unsigned.any (fun c => isMark c || c == '.')
        && floatFits (Text.natOfDigits (whole ++ fraction)) (exponent - fraction.length)
  | _, _ => false

/-- A number of exactly `count` decimal digits. -/
def readFixed (count : Nat) : Reader Nat := fun text =>
  let digits := text.take count
  if digits.length = count ∧ digits.all Char.isDigit then
    some (Text.natOfDigits digits, text.drop count)
  else none

/-- The number of days of a month. -/
def daysInMonth (year month : Nat) : Nat :=
  if month = 2 then
    if year % 4 = 0 ∧ (year % 100 ≠ 0 ∨ year % 400 = 0) then 29 else 28
  else if month = 4 ∨ month = 6 ∨ month = 9 ∨ month = 11 then 30
  else 31

/-- The text after the date in front of it. -/
def afterDate? (text : List Char) : Option (List Char) := do
  let (year, text) ← readFixed 4 text
  let (month, text) ← readFixed 2 (← Text.after? ['-'] text)
  let (day, text) ← readFixed 2 (← Text.after? ['-'] text)
  if 1 ≤ month ∧ month ≤ 12 ∧ 1 ≤ day ∧ day ≤ daysInMonth year month then some text else none

/-- The text after the seconds in front of it, if any. -/
def afterSeconds? (text : List Char) : Option (List Char) :=
  match text with
  | ':' :: text => do
      let (second, text) ← readFixed 2 text
      if 60 < second then none
      match text with
      | '.' :: text =>
          if (text.takeWhile Char.isDigit).isEmpty then none
          return text.dropWhile Char.isDigit
      | text => return text
  | text => some text

/-- The text after the time of day in front of it. -/
def afterTime? (text : List Char) : Option (List Char) := do
  let (hour, text) ← readFixed 2 text
  let (minute, text) ← readFixed 2 (← Text.after? [':'] text)
  if hour ≤ 23 ∧ minute ≤ 59 then afterSeconds? text else none

/-- The text is an offset from universal time, or empty. -/
def isOffset (text : List Char) : Bool :=
  match text with
  | [] => true
  | ['Z'] => true
  | ['z'] => true
  | sign :: text =>
      (sign == '+' || sign == '-')
        && (do
          let (hour, text) ← readFixed 2 text
          let (minute, text) ← readFixed 2 (← Text.after? [':'] text)
          if hour ≤ 23 ∧ minute ≤ 59 ∧ text.isEmpty then some () else none).isSome

/-- The text is a time of day with an offset, if any. -/
def isTimeAndOffset (text : List Char) : Bool :=
  (afterTime? text).any isOffset

/-- The text is a date, a time, or both joined by a `T`. -/
def isDatetime (text : List Char) : Bool :=
  match afterDate? text with
  | some [] => true
  | some (c :: time) => (c == 'T' || c == 't') && isTimeAndOffset time
  | none => afterTime? text == some []

/-- The value that a run of scalar characters writes. -/
def scalar? (text : List Char) : Option Value :=
  let unsigned := (splitSign text).2
  if text = "true".toList then some (.boolean true)
  else if text = "false".toList then some (.boolean false)
  else if unsigned = "inf".toList ∨ unsigned = "nan".toList then some .float
  else
    match integer? text with
    | some n => if integerFits n then some (.integer n) else none
    | none =>
        if isFloat text then some .float
        else if isDatetime text then some .datetime
        else none

def isScalarChar (c : Char) : Bool :=
  c.isAlphanum || c == '_' || c == '+' || c == '-' || c == '.' || c == ':'

def readScalar : Reader Value := fun text =>
  let run := text.takeWhile isScalarChar
  let rest := text.dropWhile isScalarChar
  match afterDate? run, rest with
  | some [], ' ' :: more =>
      if more.head?.any Char.isDigit then
        if isTimeAndOffset (more.takeWhile isScalarChar) then
          some (.datetime, more.dropWhile isScalarChar)
        else none
      else some (.datetime, rest)
  | _, _ => (scalar? run).map fun value => (value, rest)

end StreamLinks.Toml
