import StreamLinks.Text.Integer
import StreamLinks.Text.Pieces
import StreamLinks.Text.Space

/-!
# Cookie declarations

A server sets a cookie by a name and a value, and by attributes between
semicolons.  Of an attribute that is given twice the last one counts, and
unknown attributes are passed over.
-/

namespace StreamLinks

/-- A cookie as a server sets it. -/
structure CookieDeclaration where
  name : String
  value : String
  domain : Option String := none
  path : Option String := none
  secure : Bool := false
  httpOnly : Bool := false
  expired : Bool := false
deriving DecidableEq

namespace CookieDeclaration

/-- The text without one dot in front. -/
def withoutDot : List Char → List Char
  | '.' :: rest => rest
  | text => text

/-- The age limit is over from the start.  A limit that is no number says
nothing, and one without digits lasts. -/
def isOver? : List Char → Option Bool
  | '-' :: digits => if digits.all Char.isDigit then some true else none
  | digits =>
      if digits.all Char.isDigit then some (!digits.isEmpty && Text.natOfDigits digits == 0)
      else none

/-- The key of an attribute in lower case, and its value. -/
def splitAttribute (text : List Char) : String × Option (List Char) :=
  match Text.cutAt? '=' text with
  | some (key, value) =>
      (Text.lowerAscii (String.ofList (Text.trim key)), some (Text.trim value))
  | none => (Text.lowerAscii (String.ofList (Text.trim text)), none)

/-- The declaration with one more attribute. -/
def withAttribute (declaration : CookieDeclaration) (text : List Char) :
    CookieDeclaration :=
  match splitAttribute text with
  | ("secure", _) => { declaration with secure := true }
  | ("httponly", _) => { declaration with httpOnly := true }
  | ("max-age", some age) =>
      { declaration with expired := (isOver? age).getD declaration.expired }
  | ("domain", some domain) =>
      if domain.isEmpty then declaration
      else { declaration with domain := some (String.ofList (withoutDot domain)) }
  | ("path", some path) => { declaration with path := some (String.ofList path) }
  | _ => declaration

/-- The name and the value in front of the attributes. -/
def ofPair? (pair : List Char) : Option CookieDeclaration := do
  let (name, value) ← Text.cutAt? '=' pair
  let name := Text.trim name
  if name.isEmpty then none
  else some { name := String.ofList name, value := String.ofList (Text.trim value) }

/-- The declaration that a text writes. -/
def parse? (text : String) : Option CookieDeclaration :=
  match Text.splitAt ';' text.toList with
  | [] => none
  | pair :: attributes =>
      (ofPair? pair).map fun declaration => attributes.foldl withAttribute declaration

end CookieDeclaration

end StreamLinks
