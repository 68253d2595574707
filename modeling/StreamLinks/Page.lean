import StreamLinks.Cipher.Token
import StreamLinks.Json.Parser
import StreamLinks.Text.Space
import StreamLinks.Text.Word
import StreamLinks.Video.Info

/-!
# What pages and player scripts say

A watch page names its player script and holds a configuration object with
the stream map; a player script calls the function that unscrambles
signatures.  All three are found by their place in the text.
-/

namespace StreamLinks.Page

/-- The text after optional white space. -/
def skipSpace (text : List Char) : List Char :=
  text.dropWhile Text.isSpace

/-- The text after one character, with white space allowed around it. -/
def afterMark? (mark : Char) (text : List Char) : Option (List Char) :=
  (Text.after? [mark] (skipSpace text)).map skipSpace

/-- The first result of `find?` on a text and its shorter and shorter ends. -/
def firstInTails {α : Type} (find? : List Char → Option α) : List Char → Option α
  | [] => find? []
  | c :: rest => find? (c :: rest) <|> firstInTails find? rest

/-! ## The player script -/

/-- The length of the string literal at the front of a text after its opening
quote, with the closing quote.  A backslash protects the next character. -/
def literalLength? : (escaped : Bool) → List Char → Option Nat
  | _, [] => none
  | true, _ :: rest => (literalLength? false rest).map (· + 1)
  | false, c :: rest =>
      if c = '"' then some 1
      else (literalLength? (c = '\\') rest).map (· + 1)

/-- The string literal with its quotes at the front of a text, unless it is
empty. -/
def stringLiteral? (text : List Char) : Option (List Char) := do
  let rest ← Text.after? ['"'] text
  let length ← literalLength? false rest
  if length = 1 then none
  return text.take (length + 1)

/-- The literal that the member `js` has at the front of a text. -/
def scriptLiteral? (text : List Char) : Option (List Char) := do
  let text ← Text.after? "\"js\"".toList text
  stringLiteral? (← afterMark? ':' text)

/-- The text after the first `"assets"` and its colon. -/
def afterAssets? (page : List Char) : Option (List Char) :=
  firstInTails
    (fun text => do
      let text ← Text.after? "\"assets\"".toList text
      Text.after? [':'] (skipSpace text))
    page

/-- The URL of a script as it is written on a page of `origin`, made absolute. -/
def absoluteUrl (origin url : String) : String :=
  match url.toList with
  | '/' :: '/' :: _ => "https:" ++ url
  | '/' :: _ => String.ofList (Text.dropEndWhile (· == '/') origin.toList) ++ url
  | _ => url

/-- The absolute URL of the player script that a watch page names. -/
def playerScriptUrl? (page origin : String) : Option String := do
  let assets ← afterAssets? page.toList
  let literal ← firstInTails scriptLiteral? (assets.drop 1)
  let url ← (← Json.parse? literal).string?
  return absoluteUrl origin url

/-! ## The stream map -/

/-- What the search for a closing brace keeps track of.  The depth is a counter of 32 bits
and wraps around. -/
structure BraceState where
  depth : Int32
  inString : Bool
  escaped : Bool

/-- The state after one more character. -/
def BraceState.next (state : BraceState) (c : Char) : BraceState :=
  if state.escaped then { state with escaped := false }
  else if c = '"' then { state with inString := !state.inString }
  else if state.inString then { state with escaped := c = '\\' }
  else if c = '{' then { state with depth := state.depth + 1 }
  else if c = '}' then { state with depth := state.depth - 1 }
  else state

/-- The character is a brace outside strings that brings the depth to zero. -/
def BraceState.isClosedBy (state : BraceState) (c : Char) : Bool :=
  c = '}' && !state.inString && !state.escaped && (state.next c).depth = 0

/-- The text up to the brace that brings the depth back to zero. -/
def upToClosing? (state : BraceState) : List Char → Option (List Char)
  | [] => none
  | c :: rest =>
      if state.isClosedBy c then some [c]
      else (upToClosing? (state.next c) rest).map (c :: ·)

/-- The text from its first character, an opening brace, up to the brace that
closes it; braces inside string literals do not count. -/
def matchingBrace? (text : List Char) : Option (List Char) :=
  if text.head? = some '{' then upToClosing? ⟨0, false, false⟩ text else none

/-- The text from the brace of the player configuration on. -/
def playerConfig? (page : List Char) : Option (List Char) :=
  firstInTails
    (fun text => do
      let text ← Text.after? "ytplayer.config".toList text
      let object ← afterMark? '=' text
      if object.head? = some '{' then some object else none)
    page

/-- The stream map in the player configuration of a watch page. -/
def streamMap? (page : String) (includeAdaptive : Bool) : Option String := do
  let object ← matchingBrace? (← playerConfig? page.toList)
  let config ← Json.parse? object
  let args ← config.member? "args"
  let streamMap ← (← args.member? "url_encoded_fmt_stream_map").string?
  return withAdaptive includeAdaptive streamMap
    ((args.member? "adaptive_fmts").bind Json.string?)

/-! ## The signature function -/

/-- The name at the front of a text that is called there. -/
def calledName? (text : List Char) : Option String :=
  match text with
  | [] => none
  | c :: rest =>
      if Cipher.isWordStart c then
        let inName := fun c => Text.isWord c || c == '$'
        let name := c :: rest.takeWhile inName
        (Text.after? ['('] (skipSpace (rest.dropWhile inName))).map fun _ => String.ofList name
      else none

/-- The function that a signature is taken from or handed over as at the front
of a text: `signature=NAME(` or `"signature",NAME(`.  The former has to start
a word. -/
def signatureCall? (previous : Option Char) (text : List Char) : Option String :=
  (do
    if previous.any Text.isWord then none
    let text ← Text.after? "signature".toList text
    calledName? (← afterMark? '=' text)) <|>
  (do
    let text ← Text.after? "\"signature\"".toList text
    calledName? (← afterMark? ',' text))

/-- The first signature call in a text that `previous` stands in front of. -/
def firstSignatureCall? : (previous : Option Char) → List Char → Option String
  | _, [] => none
  | previous, c :: rest =>
      signatureCall? previous (c :: rest) <|> firstSignatureCall? (some c) rest

/-- The name of the function that unscrambles signatures in a player script. -/
def signatureFunction? (script : String) : Option String :=
  firstSignatureCall? none script.toList

end StreamLinks.Page
