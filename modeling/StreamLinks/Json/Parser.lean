import StreamLinks.Json.Basic
import StreamLinks.Json.Number
import StreamLinks.Text.Pieces
import StreamLinks.Text.Reader

/-!
# Reading JSON

A reader takes a value from the front of a text and hands the rest back.
Arrays and objects draw on a nesting budget, and their loops are bounded by
the length of the text, which every round shortens.
-/

namespace StreamLinks.Json

open Text (Reader)

/-- The white space between tokens. -/
def isBlank (c : Char) : Bool :=
  c == ' ' || c == '\t' || c == '\n' || c == '\r'

/-- The text after white space. -/
def skipBlank (text : List Char) : List Char :=
  text.dropWhile isBlank

/-- The character that an escape stands for, given the text after its
backslash, and how much of that text belongs to it.  Characters beyond four
digits are written as a pair of surrogates, which never stand alone. -/
def escape? : List Char → Option (Char × Nat)
  | '"' :: _ => some ('"', 1)
  | '\\' :: _ => some ('\\', 1)
  | '/' :: _ => some ('/', 1)
  | 'b' :: _ => some ('\x08', 1)
  | 'f' :: _ => some ('\x0c', 1)
  | 'n' :: _ => some ('\n', 1)
  | 'r' :: _ => some ('\r', 1)
  | 't' :: _ => some ('\t', 1)
  | 'u' :: rest => do
      let unit ← Text.hexNumber? 4 rest
      if 0xD800 ≤ unit ∧ unit < 0xDC00 then
        match rest.drop 4 with
        | '\\' :: 'u' :: rest =>
            let low ← Text.hexNumber? 4 rest
            if 0xDC00 ≤ low ∧ low < 0xE000 then
              some (Char.ofNat (0x10000 + 0x400 * (unit - 0xD800) + (low - 0xDC00)), 11)
            else none
        | _ => none
      else if 0xDC00 ≤ unit ∧ unit < 0xE000 then none
      else some (Char.ofNat unit, 5)
  | _ => none

/-- The content of a string up to its closing quote.  Controls have to be
escaped.  `skip` counts characters that belong to the escape before. -/
def readContent : (skip : Nat) → Reader (List Char)
  | _, [] => none
  | skip + 1, _ :: rest => readContent skip rest
  | 0, c :: rest =>
      if c = '"' then some ([], rest)
      else if c = '\\' then do
        let (escaped, length) ← escape? rest
        let (content, rest) ← readContent length rest
        return (escaped :: content, rest)
      else if c.toNat < 0x20 then none
      else do
        let (content, rest) ← readContent 0 rest
        return (c :: content, rest)

def readString : Reader String
  | '"' :: rest => (readContent 0 rest).map fun (content, rest) => (String.ofList content, rest)
  | _ => none

/-- Values between commas up to the closing bracket; there is one at least. -/
def readItems (value : Reader Json) : (count : Nat) → Reader (List Json)
  | 0, _ => none
  | count + 1, text => do
      let (item, text) ← value (skipBlank text)
      match skipBlank text with
      | ']' :: text => some ([item], text)
      | ',' :: text => do
          let (items, text) ← readItems value count text
          return (item :: items, text)
      | _ => none

/-- A key, a colon and a value. -/
def readMember (value : Reader Json) : Reader (String × Json) := fun text => do
  let (key, text) ← readString (skipBlank text)
  let text ← Text.after? [':'] (skipBlank text)
  let (value, text) ← value (skipBlank text)
  return ((key, value), text)

/-- Members between commas up to the closing brace; there is one at least. -/
def readMembers (value : Reader Json) : (count : Nat) → Reader (List (String × Json))
  | 0, _ => none
  | count + 1, text => do
      let (entry, text) ← readMember value text
      match skipBlank text with
      | '}' :: text => some ([entry], text)
      | ',' :: text => do
          let (entries, text) ← readMembers value count text
          return (entry :: entries, text)
      | _ => none

/-- Values other than arrays and objects. -/
def readScalar : Reader Json := fun text =>
  match text with
  | '"' :: _ => (readString text).map fun (content, rest) => (string content, rest)
  | 'n' :: _ => (Text.after? "null".toList text).map fun rest => (null, rest)
  | 't' :: _ => (Text.after? "true".toList text).map fun rest => (bool true, rest)
  | 'f' :: _ => (Text.after? "false".toList text).map fun rest => (bool false, rest)
  | _ => do
      let (numeral, rest) ← readNumeral? text
      if numeral.fits then
        return (number (String.ofList (text.take (text.length - rest.length))), rest)
      else none

/-- A value, with `depth` more levels of arrays and objects allowed. -/
def readValue : (depth : Nat) → Reader Json
  | 0, text =>
      match text with
      | '[' :: _ => none
      | '{' :: _ => none
      | _ => readScalar text
  | depth + 1, text =>
      match text with
      | '[' :: rest =>
          match skipBlank rest with
          | ']' :: rest => some (array [], rest)
          | _ => (readItems (readValue depth) rest.length rest).map fun (items, rest) =>
              (array items, rest)
      | '{' :: rest =>
          match skipBlank rest with
          | '}' :: rest => some (object [], rest)
          | _ => (readMembers (readValue depth) rest.length rest).map fun (members, rest) =>
              (object members, rest)
      | _ => readScalar text

/-- The number of arrays and objects that may stand inside one another. -/
def maxDepth : Nat := 127

/-- The value that a text writes, with white space around it. -/
def parse? (text : List Char) : Option Json :=
  match readValue maxDepth (skipBlank text) with
  | some (value, rest) => if (skipBlank rest).isEmpty then some value else none
  | none => none

end StreamLinks.Json
