import StreamLinks.Text.Integer

/-!
# Tokens of the scrambler language

A function body is a sequence of tokens.  `render` writes tokens back as
compact text, with one space wherever two words or a word and a number would
otherwise run together.
-/

namespace StreamLinks.Cipher

/-- The smallest units of a function body. -/
inductive Token where
  | word (name : String)
  | number (value : Int64)
  | text (content : String)
  | dot
  | openParen
  | closeParen
  | openBracket
  | closeBracket
  | comma
  | percent
  | assign
  | semicolon
deriving DecidableEq

/-- The source text of one token.  Texts are written between double quotes,
whatever quotes they were read from. -/
def Token.source : Token → String
  | .word name => name
  | .number value => Text.writeInt64 value
  | .text content => "\"" ++ content ++ "\""
  | .dot => "."
  | .openParen => "("
  | .closeParen => ")"
  | .openBracket => "["
  | .closeBracket => "]"
  | .comma => ","
  | .percent => "%"
  | .assign => "="
  | .semicolon => ";"

/-- A space keeps a word apart from a word or number that follows it. -/
def Token.gap : (left right : Token) → String
  | .word _, .word _ => " "
  | .word _, .number _ => " "
  | _, _ => ""

/-- The compact source text of a token sequence. -/
def render : List Token → String
  | [] => ""
  | [token] => token.source
  | left :: right :: rest => left.source ++ left.gap right ++ render (right :: rest)

def isWordStart (c : Char) : Bool :=
  c.isAlpha || c == '_' || c == '$'

def isWordPart (c : Char) : Bool :=
  c.isAlphanum || c == '_' || c == '$'

/-- A name that a variable or function can have: a whole word, and not empty. -/
def isIdentifier (name : String) : Bool :=
  match name.toList with
  | [] => false
  | c :: rest => isWordStart c && rest.all isWordPart

/-- The words that can never name a variable or a function. -/
def reservedWords : List String :=
  ["function", "var", "return", "new", "this", "typeof", "delete"]

/-- An identifier that is not reserved. -/
def isFreeName (name : String) : Bool :=
  isIdentifier name && !reservedWords.contains name

end StreamLinks.Cipher
