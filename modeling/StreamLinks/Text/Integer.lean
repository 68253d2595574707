/-!
# Decimal text of 64-bit integers

An integer is written as decimal digits with at most one sign in front, and
is read only when its value fits 64 bits.
-/

namespace StreamLinks.Text

/-- The number that decimal digits denote, most significant first. -/
def natOfDigits (digits : List Char) : Nat :=
  digits.foldl (fun n c => 10 * n + (c.toNat - '0'.toNat)) 0

/-- The number written by one or more decimal digits and nothing else. -/
def readNat? (text : List Char) : Option Nat :=
  if text.isEmpty || !text.all Char.isDigit then none else some (natOfDigits text)

/-- The integer written by decimal digits after at most one sign. -/
def readInt? : List Char → Option Int
  | '-' :: digits => (readNat? digits).map fun n : Nat => -(n : Int)
  | '+' :: digits => (readNat? digits).map fun n : Nat => (n : Int)
  | digits => (readNat? digits).map fun n : Nat => (n : Int)

/-- The 64-bit integer equal to `n`, when there is one. -/
def int64OfInt? (n : Int) : Option Int64 :=
  if Int64.minValue.toInt ≤ n ∧ n ≤ Int64.maxValue.toInt then some (Int64.ofInt n) else none

/-- The 64-bit integer that the text writes. -/
def readInt64? (text : List Char) : Option Int64 :=
  (readInt? text).bind int64OfInt?

/-- The decimal text of an integer: no leading zeros, and a sign only when it
is negative. -/
def writeInt64 (n : Int64) : String :=
  toString n.toInt

end StreamLinks.Text
