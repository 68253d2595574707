import StreamLinks.Cipher.Token

/-!
# Why deciphering fails

Every failure has a cause of its own, and `Error.message` is the only place
that knows its wording.  `Unsupported` lists the ways in which a text steps
outside the scrambler language; the other errors arise while it runs.
-/

namespace StreamLinks.Cipher

/-- The ways in which a text is outside the scrambler language. -/
inductive Unsupported where
  /-- A number runs into a letter; `near` ends with that letter. -/
  | malformedNumber (near : String)
  /-- The digits denote no 64-bit integer. -/
  | numberOutOfRange (digits : String)
  | escapeInText
  | unterminatedText
  | unexpectedChar (c : Char)
  /-- The operator character is followed by `=`. -/
  | operatorAssign (operator : Char)
  | bareReturn
  /-- A single statement holds a semicolon. -/
  | multipleStatements (source : String)
  /-- The token does not belong where it stands; `none` is the end. -/
  | unexpected (found : Option Token) (within : List Token)
  | unknownMember (name : String) (within : List Token)
  /-- The parameter is no free name. -/
  | badParameter (name : String)
  /-- Brackets and operators nest beyond the limit. -/
  | tooDeep (limit : Nat)
deriving DecidableEq

/-- The description of a construct outside the language. -/
def Unsupported.message : Unsupported → String
  | .malformedNumber near => "malformed number near `" ++ near ++ "`"
  | .numberOutOfRange digits => "integer literal `" ++ digits ++ "` out of range"
  | .escapeInText => "escape sequence in string literal"
  | .unterminatedText => "unterminated string literal"
  | .unexpectedChar c => "unexpected character `" ++ c.toString ++ "`"
  | .operatorAssign operator => "operator `" ++ operator.toString ++ "=`"
  | .bareReturn => "bare `return`"
  | .multipleStatements source => "multiple statements in `" ++ source ++ "`"
  | .unexpected (some found) within =>
      "unexpected `" ++ found.source ++ "` in `" ++ render within ++ "`"
  | .unexpected none within => "unexpected end of `" ++ render within ++ "`"
  | .unknownMember name within => "member `" ++ name ++ "` in `" ++ render within ++ "`"
  | .badParameter name => "parameter `" ++ name ++ "`"
  | .tooDeep limit => "expression nested deeper than " ++ toString limit ++ " levels"

inductive Kind where
  | integer
  | string
  | sequence
deriving DecidableEq

def Kind.name : Kind → String
  | .integer => "integer"
  | .string => "string"
  | .sequence => "sequence"

/-- The operations that expect values of certain kinds. -/
inductive Operation where
  | result
  | modulo
  | index
  | slice
  | indexedAssignment
  | split
  | reverse
  | join
  | length
deriving DecidableEq

def Operation.name : Operation → String
  | .result => "result"
  | .modulo => "%"
  | .index => "index"
  | .slice => "slice"
  | .indexedAssignment => "indexed assignment"
  | .split => "split"
  | .reverse => "reverse"
  | .join => "join"
  | .length => "length"

/-- Why a script cannot be parsed or run. -/
inductive Error where
  | unboundVariable (name : String)
  | unsupported (construct : Unsupported)
  | functionNotFound (name : String)
  | recursionLimit (limit : Nat)
  | missingReturn (name : String)
  | typeMismatch (operation : Operation) (expected : List Kind) (found : Kind)
  | indexOutOfRange (index : Int64) (length : Nat)
  | divisionByZero
deriving DecidableEq

def Error.message : Error → String
  | .unboundVariable name => "unbound variable `" ++ name ++ "`"
  | .unsupported construct => "unsupported construct: " ++ construct.message
  | .functionNotFound name => "function `" ++ name ++ "` not found in player script"
  | .recursionLimit limit => "call depth exceeded " ++ toString limit ++ " frames"
  | .missingReturn name => "function `" ++ name ++ "` finished without returning a value"
  | .typeMismatch operation expected found =>
      "`" ++ operation.name ++ "` expects " ++ " or ".intercalate (expected.map Kind.name)
        ++ ", got " ++ found.name
  | .indexOutOfRange index length =>
      "index " ++ Text.writeInt64 index ++ " out of range for length " ++ toString length
  | .divisionByZero => "modulo by zero"

end StreamLinks.Cipher
