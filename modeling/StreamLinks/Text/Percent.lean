import StreamLinks.Text.Reader

/-!
# Percent-encoding

`%XX` stands for a byte; a `%` without two hexadecimal digits stands for
itself.
-/

namespace StreamLinks.Text

/-- The byte that the two characters at the front of a text write. -/
def hexByte? (text : List Char) : Option UInt8 :=
  (hexNumber? 2 text).map UInt8.ofNat

/-- The bytes that percent-encoded text stands for.  `skip` counts characters
that belong to the escape before. -/
def percentBytesFrom : (skip : Nat) → List Char → List UInt8
  | _, [] => []
  | skip + 1, _ :: rest => percentBytesFrom skip rest
  | 0, c :: rest =>
      match if c = '%' then hexByte? rest else none with
      | some byte => byte :: percentBytesFrom 2 rest
      | none => String.utf8EncodeChar c ++ percentBytesFrom 0 rest

/-- The bytes that percent-encoded text stands for. -/
def percentBytes (text : List Char) : List UInt8 :=
  percentBytesFrom 0 text

/-- A byte as `%XX` with upper-case digits. -/
def percentEncodeByte (byte : UInt8) : List Char :=
  '%' :: ((Nat.toDigits 16 (256 + byte.toNat)).drop 1).map Char.toUpper

/-- A character as the escapes of its bytes. -/
def percentEncode (c : Char) : List Char :=
  (String.utf8EncodeChar c).flatMap percentEncodeByte

end StreamLinks.Text
