/-!
# Text as bytes

Text travels as UTF-8.  `decode?` reads well-formed bytes and nothing else;
`decodeLossy` replaces whatever is ill-formed, one replacement character for
each longest run of bytes that starts a character and does not finish it.
-/

namespace StreamLinks.Text

def encode (text : String) : List UInt8 :=
  text.toUTF8.toList

/-- The text that well-formed bytes encode. -/
def decode? (bytes : List UInt8) : Option String :=
  String.fromUTF8? (ByteArray.mk bytes.toArray)

/-- The ranges of the bytes that may follow the first byte of a character, and
the bits of the character that the first byte holds. -/
def continuation? (first : UInt8) : Option (Nat × List (UInt8 × UInt8)) :=
  let n := first.toNat
  if first < 0x80 then some (n, [])
  else if first < 0xC2 then none
  else if first < 0xE0 then some (n - 0xC0, [(0x80, 0xBF)])
  else if first = 0xE0 then some (0, [(0xA0, 0xBF), (0x80, 0xBF)])
  else if first = 0xED then some (0xD, [(0x80, 0x9F), (0x80, 0xBF)])
  else if first < 0xF0 then some (n - 0xE0, [(0x80, 0xBF), (0x80, 0xBF)])
  else if first = 0xF0 then some (0, [(0x90, 0xBF), (0x80, 0xBF), (0x80, 0xBF)])
  else if first < 0xF4 then
    some (n - 0xF0, [(0x80, 0xBF), (0x80, 0xBF), (0x80, 0xBF)])
  else if first = 0xF4 then some (4, [(0x80, 0x8F), (0x80, 0xBF), (0x80, 0xBF)])
  else none

/-- The code that continuation bytes add to the bits `code`, or `none` when
they leave the ranges; and how many bytes keep to them. -/
def continueCode (code : Nat) : List (UInt8 × UInt8) → List UInt8 → Option Nat × Nat
  | [], _ => (some code, 0)
  | _ :: _, [] => (none, 0)
  | (low, high) :: ranges, byte :: rest =>
      if low ≤ byte ∧ byte ≤ high then
        let (found, length) := continueCode (64 * code + byte.toNat % 64) ranges rest
        (found, length + 1)
      else (none, 0)

/-- The characters of bytes, with ill-formed runs replaced.  `skip` counts
bytes that belong to the character before. -/
def replaceIllFormed : (skip : Nat) → List UInt8 → List Char
  | _, [] => []
  | skip + 1, _ :: rest => replaceIllFormed skip rest
  | 0, byte :: rest =>
      match continuation? byte with
      | none => '\uFFFD' :: replaceIllFormed 0 rest
      | some (code, ranges) =>
          match continueCode code ranges rest with
          | (some code, length) => Char.ofNat code :: replaceIllFormed length rest
          | (none, length) => '\uFFFD' :: replaceIllFormed length rest

/-- The text of bytes, with ill-formed runs replaced. -/
def decodeLossy (bytes : List UInt8) : String :=
  (decode? bytes).getD (String.ofList (replaceIllFormed 0 bytes))

end StreamLinks.Text
