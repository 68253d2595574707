/-!
# Readers

A reader takes something from the front of a text and hands the rest back.
-/

namespace StreamLinks.Text

/-- A function that takes an `α` from the front of a text, when there is one. -/
abbrev Reader (α : Type) := List Char → Option (α × List Char)

/-- The value of a hexadecimal digit in either case. -/
def hexValue? (c : Char) : Option Nat :=
  if '0' ≤ c ∧ c ≤ '9' then some (c.toNat - '0'.toNat)
  else if 'a' ≤ c ∧ c ≤ 'f' then some (c.toNat - 'a'.toNat + 10)
  else if 'A' ≤ c ∧ c ≤ 'F' then some (c.toNat - 'A'.toNat + 10)
  else none

/-- The number that hexadecimal digits write after the digits that make `high`. -/
def hexNumberFrom? (high : Nat) : List Char → Option Nat
  | [] => some high
  | c :: rest => do hexNumberFrom? (16 * high + (← hexValue? c)) rest

/-- The number that the first `count` characters of a text write as
hexadecimal digits. -/
def hexNumber? (count : Nat) (text : List Char) : Option Nat :=
  if text.length < count then none else hexNumberFrom? 0 (text.take count)

end StreamLinks.Text
