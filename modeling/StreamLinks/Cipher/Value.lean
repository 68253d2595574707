import StreamLinks.Text.Space
import StreamLinks.Cipher.Error

/-!
# Values and the operations on them

A script works on integers, strings and sequences.  Splitting a string gives
the sequence of its characters, and on indices, lengths and slices the string
and that sequence behave alike.
-/

namespace StreamLinks.Cipher

/-- What a variable can hold. -/
inductive Value where
  | int (n : Int64)
  | str (text : String)
  | seq (items : List String)
deriving DecidableEq

namespace Value

def kind : Value → Kind
  | .int _ => .integer
  | .str _ => .string
  | .seq _ => .sequence

/-- The text of a value; the elements of a sequence are separated by commas. -/
def text : Value → String
  | .int n => Text.writeInt64 n
  | .str text => text
  | .seq items => ",".intercalate items

/-- The error of an operation that expects other kinds than that of the value. -/
def mismatch (operation : Operation) (expected : List Kind) (found : Value) : Error :=
  .typeMismatch operation expected found.kind

/-- The value as the result of deciphering, which has to be a string. -/
def toResult : Value → Except Error String
  | .str text => .ok text
  | found => .error (mismatch .result [.string] found)

/-- The integer that a value stands for in `operation`: an integer itself, or
the decimal text of one with white space around it. -/
def toInt (operation : Operation) : Value → Except Error Int64
  | .int n => .ok n
  | .str text =>
      match Text.readInt64? (Text.trim text.toList) with
      | some n => .ok n
      | none => .error (mismatch operation [.integer] (.str text))
  | .seq items => .error (mismatch operation [.integer] (.seq items))

def elementAt {α : Type} (items : List α) (index : Int64) : Except Error α :=
  if index.toInt < 0 then .error (.indexOutOfRange index items.length)
  else
    match items[index.toInt.toNat]? with
    | some item => .ok item
    | none => .error (.indexOutOfRange index items.length)

/-- The value at an index: an element of a sequence or a character of a string. -/
def itemAt (index : Int64) : Value → Except Error Value
  | .seq items => .str <$> elementAt items index
  | .str text => (fun c => .str (String.ofList [c])) <$> elementAt text.toList index
  | found => .error (mismatch .index [.sequence] found)

/-- How many elements of `length` a slice leaves out.  A negative start counts
from the end, and a start beyond an end stands for that end. -/
def sliceStart (start : Int64) (length : Nat) : Nat :=
  if start.toInt < 0 then length - start.toInt.natAbs else min start.toInt.toNat length

/-- The rest of a string or sequence from `start` on. -/
def slice (start : Int64) : Value → Except Error Value
  | .seq items => .ok (.seq (items.drop (sliceStart start items.length)))
  | .str text =>
      .ok (.str (String.ofList (text.toList.drop (sliceStart start text.length))))
  | found => .error (mismatch .slice [.string, .sequence] found)

/-- The sequence of the characters of a string. -/
def split : Value → Except Error Value
  | .str text => .ok (.seq (text.toList.map fun c => String.ofList [c]))
  | found => .error (mismatch .split [.string] found)

/-- The string made of the elements of a sequence. -/
def join : Value → Except Error Value
  | .seq items => .ok (.str (String.join items))
  | found => .error (mismatch .join [.sequence] found)

/-- A number of parts as an integer.  Whatever fits into memory has fewer than
`2^63` parts; the largest integer would stand for any number beyond. -/
def count (parts : Nat) : Int64 := Int64.ofIntClamp parts

def length : Value → Except Error Value
  | .str text => .ok (.int (count text.length))
  | .seq items => .ok (.int (count items.length))
  | found => .error (mismatch .length [.string, .sequence] found)

def reverse : Value → Except Error Value
  | .seq items => .ok (.seq items.reverse)
  | found => .error (mismatch .reverse [.sequence] found)

/-- The remainder of the division that rounds toward zero.  It is undefined
for the divisor zero, and for the one division whose quotient does not fit. -/
def remainder (dividend divisor : Int64) : Except Error Value :=
  if divisor = 0 ∨ (dividend = Int64.minValue ∧ divisor = -1) then .error .divisionByZero
  else .ok (.int (dividend % divisor))

/-- The text that a value becomes as an element of a sequence. -/
def toElement : Value → Except Error String
  | .str text => .ok text
  | .int n => .ok (Text.writeInt64 n)
  | found => .error (mismatch .indexedAssignment [.string] found)

/-- The length up to which an indexed assignment lengthens a sequence. -/
def maxGrownLength : Nat := 65536

/-- The sequence with `item` at `position`, lengthened by empty elements when
it ends before. -/
def replaceElement (items : List String) (position : Nat) (item : String) : List String :=
  (items ++ List.replicate (position + 1 - items.length) "").set position item

end Value

end StreamLinks.Cipher
