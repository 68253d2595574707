import StreamLinks.Text.Bytes
import StreamLinks.Text.Integer
import StreamLinks.Text.Percent
import StreamLinks.Url.Domain

/-!
# Hosts

A host is a domain name or an address.  A domain name whose last label is a
number is an IPv4 address in one of its short or octal or hexadecimal forms,
or no host at all.
-/

namespace StreamLinks.Url

open Text (hexValue?)

/-- Where a URL leads. -/
inductive Host where
  | domain (name : String)
  | ipv4 (address : Nat)
  | ipv6 (pieces : List Nat)
deriving DecidableEq

/-! ## IPv4 -/

/-- The number that all characters write as digits of a base up to sixteen;
without digits it is zero. -/
def readRadix? (base : Nat) (digits : List Char) : Option Nat :=
  digits.foldlM (fun n c => do
    let digit ← hexValue? c
    if digit < base then some (base * n + digit) else none) 0

/-- A part of an IPv4 address: decimal, octal behind `0`, hexadecimal behind `0x`. -/
def ipv4Number? : List Char → Option Nat
  | [] => none
  | '0' :: 'x' :: digits => readRadix? 16 digits
  | '0' :: 'X' :: digits => readRadix? 16 digits
  | '0' :: c :: digits => readRadix? 8 (c :: digits)
  | digits => readRadix? 10 digits

/-- The labels of a domain name without an empty last one. -/
def labelsOf (domain : List Char) : List (List Char) :=
  let labels := Text.splitAt '.' domain
  if labels.getLast? = some [] then labels.dropLast else labels

/-- The last label is a number. -/
def endsInNumber (domain : List Char) : Bool :=
  match (labelsOf domain).getLast? with
  | none => false
  | some label => (!label.isEmpty && label.all Char.isDigit) || (ipv4Number? label).isSome

/-- The address made of parts, the last of which fills all bytes left. -/
def ipv4OfParts? (parts : List Nat) : Option Nat :=
  match parts.reverse with
  | [] => none
  | last :: before =>
      if before.all (· < 256) ∧ before.length < 4 ∧ last < Nat.pow 256 (4 - before.length) then
        some (last + before.reverse.foldl (fun n part => 256 * n + part) 0
          * Nat.pow 256 (4 - before.length))
      else none

def ipv4? (domain : List Char) : Option Nat := do
  ipv4OfParts? (← (labelsOf domain).mapM ipv4Number?)

/-- The four bytes of an address between dots. -/
def ipv4Text (address : Nat) : String :=
  ".".intercalate ([3, 2, 1, 0].map fun place => toString (address / Nat.pow 256 place % 256))

/-! ## IPv6 -/

/-- A decimal byte without superfluous zeros. -/
def decimalByte? (digits : List Char) : Option Nat := do
  let n ← Text.readNat? digits
  if n < 256 ∧ (digits.length = 1 ∨ digits.head? ≠ some '0') then some n else none

/-- The two pieces that four decimal bytes make. -/
def dottedPieces? (text : List Char) : Option (List Nat) := do
  match ← (Text.splitAt '.' text).mapM decimalByte? with
  | [a, b, c, d] => some [256 * a + b, 256 * c + d]
  | _ => none

/-- The pieces between colons; the last one may be four decimal bytes. -/
def piecesFrom? : (dotted : Bool) → List (List Char) → Option (List Nat)
  | _, [] => some []
  | dotted, piece :: rest =>
      if dotted ∧ rest = [] ∧ piece.contains '.' then dottedPieces? piece
      else if piece.isEmpty ∨ 4 < piece.length then none
      else do
        let n ← readRadix? 16 piece
        let pieces ← piecesFrom? dotted rest
        return n :: pieces

/-- The pieces of a text, which may be empty. -/
def pieces? (dotted : Bool) (text : List Char) : Option (List Nat) :=
  if text.isEmpty then some [] else piecesFrom? dotted (Text.splitAt ':' text)

/-- The text before and after the first double colon. -/
def cutAtGap? : List Char → Option (List Char × List Char)
  | ':' :: ':' :: rest => some ([], rest)
  | [] => none
  | c :: rest => (cutAtGap? rest).map fun cut => (c :: cut.1, cut.2)

/-- The eight pieces of an address, of which a double colon leaves out one or
more zeros. -/
def ipv6? (text : List Char) : Option (List Nat) := do
  match cutAtGap? text with
  | none =>
      let pieces ← pieces? true text
      if pieces.length = 8 then some pieces else none
  | some (before, after) =>
      let start ← pieces? false before
      let rest ← pieces? true after
      let missing := 8 - (start.length + rest.length)
      if missing = 0 then none else some (start ++ List.replicate missing 0 ++ rest)

/-- The start and the length of the first of the longest runs of zeros. -/
def longestZeros : (place : Nat) → List Nat → Nat × Nat
  | _, [] => (0, 0)
  | place, piece :: rest =>
      let run := ((piece :: rest).takeWhile (· == 0)).length
      let later := longestZeros (place + 1) rest
      if later.2 ≤ run then (place, run) else later

/-- Pieces in hexadecimal between colons. -/
def piecesText (pieces : List Nat) : String :=
  ":".intercalate (pieces.map fun piece => String.ofList (Nat.toDigits 16 piece))

/-- The shortest text of an address. -/
def ipv6Text (pieces : List Nat) : String :=
  let (start, run) := longestZeros 0 pieces
  if run < 2 then piecesText pieces
  else piecesText (pieces.take start) ++ "::" ++ piecesText (pieces.drop (start + run))

/-! ## Hosts -/

namespace Host

def text : Host → String
  | .domain name => name
  | .ipv4 address => ipv4Text address
  | .ipv6 pieces => "[" ++ ipv6Text pieces ++ "]"

/-- The IPv6 address in square brackets. -/
def bracketed? (text : List Char) : Option Host :=
  if text.getLast? = some ']' then (ipv6? (text.drop 1).dropLast).map .ipv6 else none

/-- The host that a URL with a well-known scheme writes. -/
def parse? (toAscii? : ToAscii) (text : List Char) : Option Host := do
  if text.head? = some '[' then bracketed? text
  else
    let decoded ← Text.decode? (Text.percentBytes text)
    let domain ← toAscii? isForbiddenInDomain decoded.toList
    if domain.isEmpty then none
    else if endsInNumber domain then (ipv4? domain).map .ipv4
    else some (.domain (String.ofList domain))

/-- The characters that no host may hold. -/
def isForbidden (c : Char) : Bool :=
  c.toNat == 0 || "\t\n\r #/:<>?@[\\]^|".toList.contains c

/-- The host that a URL with another scheme writes; it is taken as it is. -/
def parseOpaque? (text : List Char) : Option Host :=
  if text.head? = some '[' then bracketed? text
  else if text.any isForbidden then none
  else
    some (.domain (String.ofList (text.flatMap fun c =>
      if c.toNat < 0x20 ∨ 0x7E < c.toNat then Text.percentEncode c else [c])))

/-- The host is the machine itself. -/
def isLoopback : Host → Bool
  | .domain name => name = "localhost"
  | .ipv4 address => address / Nat.pow 256 3 = 127
  | .ipv6 pieces => pieces = [0, 0, 0, 0, 0, 0, 0, 1]

end Host

end StreamLinks.Url
