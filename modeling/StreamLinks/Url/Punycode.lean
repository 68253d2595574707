/-!
# Punycode

A label with characters beyond ASCII is written as its ASCII characters, a
hyphen, and a number for every other character: how far to go, in the order
of characters and then of places, from the one before.  Numbers have digits
in base 36 with a threshold for the last digit of each, and the thresholds
follow the size of the numbers.
-/

namespace StreamLinks.Url.Punycode

def digitChar (digit : Nat) : Char :=
  if digit < 26 then Char.ofNat ('a'.toNat + digit) else Char.ofNat ('0'.toNat + digit - 26)

/-- The digit of a character in either case. -/
def digitValue? (c : Char) : Option Nat :=
  if 'a' ≤ c ∧ c ≤ 'z' then some (c.toNat - 'a'.toNat)
  else if 'A' ≤ c ∧ c ≤ 'Z' then some (c.toNat - 'A'.toNat)
  else if '0' ≤ c ∧ c ≤ '9' then some (c.toNat - '0'.toNat + 26)
  else none

/-- The threshold at a place: the digits below it end a number there. -/
def threshold (place bias : Nat) : Nat :=
  max 1 (min 26 (place - bias))

theorem one_le_threshold (place bias : Nat) : 1 ≤ threshold place bias := by
  unfold threshold
  omega

/-- How often `delta` has to be divided by 35 to fall to 455, as places. -/
def scaleDown (delta : Nat) : Nat × Nat :=
  if 455 < delta then
    let (small, places) := scaleDown (delta / 35)
    (small, places + 36)
  else (delta, 0)
termination_by delta

/-- The bias after a number, when `count` characters are in place. -/
def adapt (delta count : Nat) (first : Bool) : Nat :=
  let delta := if first then delta / 700 else delta / 2
  let (delta, places) := scaleDown (delta + delta / count)
  places + 36 * delta / (delta + 38)

/-- The digits of a number from a place on. -/
def numberDigits (bias place number : Nat) : List Char :=
  let t := threshold place bias
  if h : number < t then [digitChar number]
  else
    digitChar (t + (number - t) % (36 - t))
      :: numberDigits bias (place + 36) ((number - t) / (36 - t))
termination_by number
decreasing_by
  have hpos := one_le_threshold place bias
  have hle := Nat.div_le_self (number - threshold place bias) (36 - threshold place bias)
  omega

/-- What encoding keeps track of: the digits written, the distance from the
last character written, the bias, and how many characters are in place. -/
structure Encoding where
  written : List Char
  distance : Nat
  bias : Nat
  placed : Nat
  first : Bool

/-- Goes past one character of the label while `code` is being placed. -/
def Encoding.pass (code : Nat) (state : Encoding) (c : Char) : Encoding :=
  if c.toNat < code then { state with distance := state.distance + 1 }
  else if c.toNat = code then
    { written := state.written ++ numberDigits state.bias 36 state.distance
      distance := 0
      bias := adapt state.distance (state.placed + 1) state.first
      placed := state.placed + 1
      first := false }
  else state

/-- Places the given codes in ascending order; `next` is the least code that
can come. -/
def placeCodes (label : List Char) : (codes : List Nat) → (next : Nat) → Encoding → Encoding
  | [], _, state => state
  | code :: codes, next, state =>
      let moved := { state with distance := state.distance + (code - next) * (state.placed + 1) }
      let state := label.foldl (Encoding.pass code) moved
      placeCodes label codes (code + 1) { state with distance := state.distance + 1 }

/-- The codes beyond ASCII of a label, each once, in ascending order. -/
def codesOf (label : List Char) : List Nat :=
  ((label.map Char.toNat).filter (0x80 ≤ ·)).mergeSort.eraseDups

/-- The written form of a label. -/
def encode (label : List Char) : List Char :=
  let basic := label.filter fun c => c.toNat < 0x80
  let start := if basic.isEmpty then [] else basic ++ ['-']
  let state : Encoding := ⟨start, 0, 72, basic.length, true⟩
  (placeCodes label (codesOf label) 0x80 state).written

/-- What decoding keeps track of: the characters in place, the last code and
index, the bias, and the number being read with its weight and place. -/
structure Decoding where
  placed : List Char
  code : Nat
  index : Nat
  bias : Nat
  number : Nat
  weight : Nat
  place : Nat
  first : Bool

/-- Takes one more digit. -/
def Decoding.take? (state : Decoding) (c : Char) : Option Decoding := do
  let digit ← digitValue? c
  let number := state.number + digit * state.weight
  let t := threshold state.place state.bias
  if t ≤ digit then
    return { state with number, weight := state.weight * (36 - t), place := state.place + 36 }
  let count := state.placed.length + 1
  let index := state.index + number
  let code := state.code + index / count
  if code.isValidChar then
    let at_ := index % count
    return {
      placed := state.placed.take at_ ++ [Char.ofNat code] ++ state.placed.drop at_
      code
      index := at_ + 1
      bias := adapt number count state.first
      number := 0
      weight := 1
      place := 36
      first := false }
  else none

/-- The label that a written form stands for. -/
def decode? (text : List Char) : Option (List Char) := do
  let digits := (text.reverse.takeWhile (· != '-')).reverse
  let basic := (text.take (text.length - digits.length)).dropLast
  if !basic.all (·.toNat < 0x80) then none
  let state ← digits.foldlM Decoding.take? ⟨basic, 0x80, 0, 72, 0, 1, 36, true⟩
  if state.place = 36 then some state.placed else none

end StreamLinks.Url.Punycode
