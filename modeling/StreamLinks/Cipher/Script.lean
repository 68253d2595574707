import StreamLinks.Text.Pieces
import StreamLinks.Text.Word
import StreamLinks.Cipher.Parser

/-!
# Functions of a script

A script is any text.  A function is defined where it says
`function NAME(PARAMS){BODY}` or `NAME=function(PARAMS){BODY}`, with white
space allowed around the punctuation; in the second form neither a word
character nor `$` nor a dot may stand in front of the name.  Parameters reach
up to the next `)`, the body up to the next `}`, and the leftmost definition
counts.
-/

namespace StreamLinks.Cipher

/-- The parameter text and the body text of a definition. -/
structure Definition where
  params : String
  body : String
deriving DecidableEq

def skipSpace (text : List Char) : List Char :=
  text.dropWhile Text.isSpace

/-- The parameters and the body at the front of a text. -/
def definitionTail? (text : List Char) : Option Definition := do
  let text ← Text.after? ['('] (skipSpace text)
  let (params, text) ← Text.cutAt? ')' text
  let text ← Text.after? ['{'] (skipSpace text)
  let (body, _) ← Text.cutAt? '}' text
  return ⟨String.ofList params, String.ofList body⟩

/-- The definition `function NAME(PARAMS){BODY}` at the front of a text. -/
def declared? (name text : List Char) : Option Definition := do
  let text ← Text.after? "function".toList text
  let named := skipSpace text
  if named.length = text.length then none
  definitionTail? (← Text.after? name named)

/-- The definition `NAME=function(PARAMS){BODY}` at the front of a text. -/
def assigned? (name text : List Char) : Option Definition := do
  let text ← Text.after? name text
  let text ← Text.after? ['='] (skipSpace text)
  definitionTail? (← Text.after? "function".toList (skipSpace text))

/-- The character cannot stand in front of an assigned name. -/
def joinsName (c : Char) : Bool :=
  Text.isWord c || c == '$' || c == '.'

/-- The definition that starts at the front of a text, where an assigned name
may have one character in front of it. -/
def definitionAt? (name text : List Char) : Option Definition :=
  declared? name text <|>
    match text with
    | [] => none
    | c :: rest => if joinsName c then none else assigned? name rest

/-- The leftmost definition in a text that something stands in front of. -/
def laterDefinition? (name : List Char) : List Char → Option Definition
  | [] => definitionAt? name []
  | c :: rest => definitionAt? name (c :: rest) <|> laterDefinition? name rest

/-- The leftmost definition of a function in a script.  At the start of the
script a name has nothing in front of it. -/
def findDefinition? (script name : String) : Option Definition :=
  if isIdentifier name then
    let name := name.toList
    let text := script.toList
    declared? name text <|> assigned? name text <|> laterDefinition? name text
  else none

/-- The function of the given name, read from its definition in a script. -/
def loadFunction (script name : String) : Except Error Function :=
  match findDefinition? script name with
  | none => .error (.functionNotFound name)
  | some definition =>
      (parseFunction name definition.params definition.body).mapError .unsupported

end StreamLinks.Cipher
