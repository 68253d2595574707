import StreamLinks.Text.Space
import StreamLinks.Cipher.Error

/-!
# Reading tokens

`tokenize` walks over the characters of a text once.  A token of several
characters is taken whole when its first character is met, and the walk then
skips the rest of it; so the walk is a plain recursion on the text.
-/

namespace StreamLinks.Cipher

/-- The token that a single character stands for. -/
def punctuation? : Char → Option Token
  | '.' => some .dot
  | '(' => some .openParen
  | ')' => some .closeParen
  | '[' => some .openBracket
  | ']' => some .closeBracket
  | ',' => some .comma
  | '%' => some .percent
  | '=' => some .assign
  | ';' => some .semicolon
  | _ => none

/-- The number that starts a text, and how many characters it takes.  A letter
may not follow its digits. -/
def readNumber (text : List Char) : Except Unsupported (Token × Nat) :=
  let digits := text.takeWhile Char.isDigit
  match text.dropWhile Char.isDigit with
  | next :: _ =>
      if isWordPart next then
        .error (.malformedNumber (String.ofList (digits ++ [next])))
      else finish digits
  | [] => finish digits
where
  /-- The number that the digits write, if it fits. -/
  finish (digits : List Char) : Except Unsupported (Token × Nat) :=
    match Text.readInt64? digits with
    | some value => .ok (.number value, digits.length)
    | none => .error (.numberOutOfRange (String.ofList digits))

/-- The text up to the closing `quote`, and how many characters it takes with
that quote.  It ends at the first quote or backslash. -/
def readText (quote : Char) (text : List Char) : Except Unsupported (Token × Nat) :=
  let content := text.takeWhile fun c => c != quote && c != '\\'
  match text.dropWhile fun c => c != quote && c != '\\' with
  | [] => .error .unterminatedText
  | c :: _ =>
      if c = quote then .ok (.text (String.ofList content), content.length + 1)
      else .error .escapeInText

/-- The token that starts with the character `c` and goes on in `rest`, and
how many characters of `rest` belong to it. -/
def readToken (c : Char) (rest : List Char) : Except Unsupported (Token × Nat) :=
  if isWordStart c then
    let tail := rest.takeWhile isWordPart
    .ok (.word (String.ofList (c :: tail)), tail.length)
  else if c.isDigit then
    (readNumber (c :: rest)).map fun (token, length) => (token, length - 1)
  else if c = '"' ∨ c = '\'' then
    readText c rest
  else
    match punctuation? c with
    | none => .error (.unexpectedChar c)
    | some token =>
        if (token = .assign ∨ token = .percent) ∧ rest.head? = some '=' then
          .error (.operatorAssign c)
        else .ok (token, 0)

/-- The tokens of a text after its first `skip` characters. -/
def scan : (skip : Nat) → List Char → Except Unsupported (List Token)
  | _, [] => .ok []
  | skip + 1, _ :: rest => scan skip rest
  | 0, c :: rest =>
      if Text.isSpace c then scan 0 rest
      else do
        let (token, length) ← readToken c rest
        let tokens ← scan length rest
        return token :: tokens

def tokenize (source : String) : Except Unsupported (List Token) :=
  scan 0 source.toList

end StreamLinks.Cipher
