import StreamLinks.Dictionary
import StreamLinks.Text.Bytes
import StreamLinks.Text.Pieces

/-!
# Request headers

A header name is a token and is kept in lower case; a header value holds no
controls but the tab.
-/

namespace StreamLinks

/-- What is wrong with a configured header. -/
inductive HeaderError where
  | badName (name : String)
  | badValue (name : String)
deriving DecidableEq

def HeaderError.message : HeaderError → String
  | .badName name => "invalid header name " ++ name ++ ": invalid HTTP header name"
  | .badValue name => "invalid value for " ++ name ++ ": failed to parse header value"

/-- The headers of a request by their names in lower case. -/
abbrev Headers := Dictionary String

namespace Headers

/-- The characters of header names. -/
def isNameChar (c : Char) : Bool :=
  c.isAlphanum || "!#$%&'*+-.^_`|~".toList.contains c

/-- A header name is not empty. -/
def isName (name : String) : Bool :=
  name ≠ "" && name.toList.all isNameChar

/-- A header value holds no controls but the tab. -/
def isValue (value : String) : Bool :=
  value.toList.all fun c => c == '\t' || (0x20 ≤ c.toNat && c.toNat ≠ 0x7F)

/-- The headers with one more; it takes the place of one with the same name. -/
def add (headers : Headers) (name value : String) : Except HeaderError Headers :=
  if !isName name then .error (.badName name)
  else
    let name := Text.lowerAscii name
    if !isValue value then .error (.badValue name) else .ok (headers.put name value)

/-- The headers that pairs of names and values make. -/
def ofPairs (pairs : List (String × String)) : Except HeaderError Headers :=
  pairs.foldlM (fun headers (name, value) => headers.add name value) Dictionary.empty

end Headers

end StreamLinks
