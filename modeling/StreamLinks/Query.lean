import StreamLinks.Dictionary
import StreamLinks.Text.Bytes
import StreamLinks.Text.Percent
import StreamLinks.Text.Pieces

/-!
# Form-encoded queries

A query is a sequence of pairs `key=value` between ampersands.  In both parts
`+` stands for a space and `%XX` for a byte.
-/

namespace StreamLinks.Query

/-- The bytes of one part of a pair. -/
def formBytes (part : List Char) : List UInt8 :=
  Text.percentBytes (part.map fun c => if c = '+' then ' ' else c)

/-- The two parts of every pair; a pair without `=` has an empty value, and
empty pairs are skipped. -/
def rawPairs (text : List Char) : List (List Char × List Char) :=
  ((Text.splitAt '&' text).filter (! ·.isEmpty)).map fun piece =>
    (Text.cutAt? '=' piece).getD (piece, [])

/-- A pair whose two parts decode to text. -/
def decodePair? (pair : List Char × List Char) : Option (String × String) := do
  return (← Text.decode? (formBytes pair.1), ← Text.decode? (formBytes pair.2))

/-- The values of a query by key.  Pairs that do not decode are dropped, and of
pairs with one key the last one counts. -/
def parse (text : String) : Dictionary String :=
  Dictionary.ofPairs ((rawPairs text.toList).filterMap decodePair?)

/-- The pairs of a query in order, with ill-formed bytes replaced. -/
def pairsLossy (text : String) : List (String × String) :=
  (rawPairs text.toList).map fun (key, value) =>
    (Text.decodeLossy (formBytes key), Text.decodeLossy (formBytes value))

end StreamLinks.Query
