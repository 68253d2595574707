import StreamLinks.Query
import StreamLinks.Text.Space

/-!
# Entries of a stream map

A stream map lists streams between commas.  Each entry is a query of its own;
it needs an itag and a URL, and may carry a signature, plain or scrambled.
-/

namespace StreamLinks

/-- The signature of a stream. -/
inductive Signature where
  | plain (text : String)
  | scrambled (text : String)
  | absent
deriving DecidableEq

/-- One stream of a stream map. -/
structure StreamEntry where
  itag : String
  mimeType : Option String
  quality : Option String
  url : String
  signature : Signature
deriving DecidableEq

/-- A value that is there and not empty. -/
def nonEmpty (value : Option String) : Option String :=
  value.filter (· ≠ "")

namespace StreamEntry

/-- The signature among the fields of an entry; a plain one comes first. -/
def signatureOf (fields : Dictionary String) : Signature :=
  match fields.get? "sig", fields.get? "s" with
  | some plain, _ => .plain plain
  | none, some scrambled => .scrambled scrambled
  | none, none => .absent

/-- The entry that a fragment of a stream map writes. -/
def ofFragment? (fragment : String) : Option StreamEntry := do
  let fields := Query.parse fragment
  let itag ← nonEmpty (fields.get? "itag")
  let url ← nonEmpty (fields.get? "url")
  return {
    itag
    mimeType := nonEmpty (fields.get? "type")
    quality := nonEmpty ((fields.get? "quality").or (fields.get? "quality_label"))
    url
    signature := signatureOf fields }

/-- The subtype of a MIME type without its parameters. -/
def subtype? (mimeType : String) : Option String := do
  let essence := mimeType.toList.takeWhile (· != ';')
  let (_, subtype) ← Text.cutAt? '/' essence
  nonEmpty (some (String.ofList (Text.trim subtype)))

/-- The file extension of a stream. -/
def extension (entry : StreamEntry) : String :=
  (entry.mimeType.bind subtype?).getD "unknown"

end StreamEntry

/-- The fragments of a stream map that are not blank. -/
def fragments (streamMap : String) : List String :=
  ((Text.splitAt ',' streamMap.toList).filter fun piece => !piece.all Text.isSpace).map
    String.ofList

/-- A field `s` starts after `previous`, the character in front if there is one,
or later in the text. -/
def hasScrambledField : (previous : Option Char) → List Char → Bool
  | _, [] => false
  | previous, c :: rest =>
      ((previous = none ∨ previous = some '&' ∨ previous = some ',')
        ∧ c = 's' ∧ rest.head? = some '=')
        || hasScrambledField (some c) rest

/-- Some entry of the stream map carries a scrambled signature. -/
def isScrambled (streamMap : String) : Bool :=
  hasScrambledField none streamMap.toList

end StreamLinks
