import StreamLinks.Text.Pieces
import StreamLinks.Cipher.Lexer
import StreamLinks.Cipher.Syntax

/-!
# Reading expressions, statements and functions

```text
statement := "return" expr | ["var"] name ["[" expr "]"] "=" expr
expr      := operand ("%" operand)*
operand   := number | name [ "." member | "[" expr "]" | "(" args ")" ]
member    := split("") | reverse() | join("") | length | slice(expr)
args      := [arg ("," arg)*]      arg := number | name
```

A reader takes tokens from the front of a list and hands the others back.
Brackets and operators draw on one nesting budget: an expression inside `b`
brackets with `k` operators of its own needs `b + 1 + k ≤ maxNesting`.  The
budget is also what the readers recurse on, so none of them needs fuel.
-/

namespace StreamLinks.Cipher

/-- The deepest nesting of an expression, counting brackets and operators. -/
def maxNesting : Nat := 64

/-- Why a reader stops, said in terms of the tokens it was given. -/
inductive Refusal where
  /-- The first token left does not belong where it stands. -/
  | unexpected (left : List Token)
  | unknownMember (name : String)
  | tooDeep

/-- The construct that a refusal within the sequence `tokens` reports. -/
def Refusal.construct (tokens : List Token) : Refusal → Unsupported
  | .unexpected left => .unexpected left.head? tokens
  | .unknownMember name => .unknownMember name tokens
  | .tooDeep => .tooDeep maxNesting

/-- A reader takes tokens from the front and hands the others back. -/
abbrev Reader (α : Type) := List Token → Except Refusal (α × List Token)

def expect (token : Token) : (tokens : List Token) → Except Refusal (List Token)
  | [] => .error (.unexpected [])
  | t :: rest => if t = token then .ok rest else .error (.unexpected (t :: rest))

def expectAll : (wanted tokens : List Token) → Except Refusal (List Token)
  | [], tokens => .ok tokens
  | token :: wanted, tokens => do expectAll wanted (← expect token tokens)

/-- Takes a name that is not reserved. -/
def readName : Reader String
  | .word name :: rest =>
      if reservedWords.contains name then .error (.unexpected (.word name :: rest))
      else .ok (name, rest)
  | tokens => .error (.unexpected tokens)

/-- The argument that a single token is: a number or a name that is not
reserved. -/
def argument? : Token → Option Arg
  | .number value => some (.literal value)
  | .word name => if reservedWords.contains name then none else some (.variable name)
  | _ => none

/-- Takes one or more arguments and the closing parenthesis. -/
def readArgsFrom : Reader (List Arg)
  | [] => .error (.unexpected [])
  | token :: rest =>
      match argument? token with
      | none => .error (.unexpected (token :: rest))
      | some arg =>
          match rest with
          | .closeParen :: rest => .ok ([arg], rest)
          | .comma :: rest => do
              let (args, rest) ← readArgsFrom rest
              return (arg :: args, rest)
          | rest => .error (.unexpected rest)

/-- Takes any number of arguments and the closing parenthesis. -/
def readArgs : Reader (List Arg)
  | .closeParen :: rest => .ok ([], rest)
  | tokens => readArgsFrom tokens

/-- Takes a member of `object` after its dot; `expression` reads what stands
in parentheses. -/
def readMember (expression : Reader Expr) (object : String) : Reader Expr
  | .word name :: rest =>
      match name with
      | "split" => do
          return (.split object, ← expectAll [.openParen, .text "", .closeParen] rest)
      | "join" => do
          return (.join object, ← expectAll [.openParen, .text "", .closeParen] rest)
      | "reverse" => do
          return (.reverse object, ← expectAll [.openParen, .closeParen] rest)
      | "length" => .ok (.length object, rest)
      | "slice" => do
          let (start, rest) ← expression (← expect .openParen rest)
          return (.slice object start, ← expect .closeParen rest)
      | name => .error (.unknownMember name)
  | tokens => .error (.unexpected tokens)

/-- Refuses a further access: members, indices and calls do not chain. -/
def unchained (expr : Expr) : Reader Expr
  | tokens@(.dot :: _) => .error (.unexpected tokens)
  | tokens@(.openBracket :: _) => .error (.unexpected tokens)
  | tokens@(.openParen :: _) => .error (.unexpected tokens)
  | tokens => .ok (expr, tokens)

/-- Takes an operand; `expression` reads what stands in its brackets. -/
def readOperand (expression : Reader Expr) : Reader Expr
  | .number value :: rest => .ok (.literal value, rest)
  | tokens => do
      let (name, rest) ← readName tokens
      match rest with
      | .dot :: rest => do
          let (expr, rest) ← readMember expression name rest
          unchained expr rest
      | .openBracket :: rest => do
          let (position, rest) ← expression rest
          unchained (.index name position) (← expect .closeBracket rest)
      | .openParen :: rest => do
          let (args, rest) ← readArgs rest
          unchained (.call name args) rest
      | rest => .ok (.variable name, rest)

/-- Takes the operators that follow the expression `left` and their right
operands, at most `budget` of them, and folds them to the left. -/
def readChain (operand : Reader Expr) : (budget : Nat) → (left : Expr) → Reader Expr
  | 0, left, tokens =>
      match tokens with
      | .percent :: _ => .error .tooDeep
      | tokens => .ok (left, tokens)
  | budget + 1, left, tokens =>
      match tokens with
      | .percent :: rest => do
          let (right, rest) ← operand rest
          readChain operand budget (.modulo left right) rest
      | tokens => .ok (left, tokens)

/-- Takes an expression with the given nesting budget. -/
def readExpr : (budget : Nat) → Reader Expr
  | 0, _ => .error .tooDeep
  | budget + 1, tokens => do
      let (left, rest) ← readOperand (readExpr budget) tokens
      readChain (readOperand (readExpr budget)) budget left rest

/-- Takes an expression that uses up all tokens. -/
def readWholeExpr (tokens : List Token) : Except Refusal Expr := do
  let (expr, rest) ← readExpr maxNesting tokens
  match rest with
  | [] => return expr
  | rest => .error (.unexpected rest)

def readAssignment (tokens : List Token) : Except Refusal Statement := do
  let (target, rest) ← readName tokens
  match rest with
  | .openBracket :: rest =>
      let (position, rest) ← readExpr maxNesting rest
      let rest ← expectAll [.closeBracket, .assign] rest
      return .assignAt target position (← readWholeExpr rest)
  | rest =>
      let rest ← expect .assign rest
      return .assign target (← readWholeExpr rest)

/-- Reports a refusal as a construct outside the language. -/
def reportIn {α : Type} (tokens : List Token) : Except Refusal α → Except Unsupported α :=
  Except.mapError (Refusal.construct tokens)

def statementOfTokens (tokens : List Token) : Except Unsupported Statement :=
  match tokens with
  | [.word "return"] => .error .bareReturn
  | .word "return" :: rest => reportIn tokens (.ret <$> readWholeExpr rest)
  | .word "var" :: rest => reportIn tokens (readAssignment rest)
  | _ => reportIn tokens (readAssignment tokens)

def parseExpression (source : String) : Except Unsupported Expr := do
  let tokens ← tokenize source
  reportIn tokens (readWholeExpr tokens)

/-- The single statement that a text writes, without a semicolon. -/
def parseStatement (source : String) : Except Unsupported Statement := do
  let tokens ← tokenize source
  if tokens.contains .semicolon then .error (.multipleStatements source)
  else statementOfTokens tokens

/-- The parameter names between the commas of a text. -/
def parseParams (source : String) : Except Unsupported (List String) :=
  match Text.trim source.toList with
  | [] => .ok []
  | text =>
      (Text.splitAt ',' text).mapM fun piece =>
        let name := String.ofList (Text.trim piece)
        if isFreeName name then .ok name else .error (.badParameter name)

/-- The statements between the semicolons of a text; empty ones are skipped. -/
def parseBody (source : String) : Except Unsupported (List Statement) := do
  let tokens ← tokenize source
  let pieces := Text.splitWhere (· == Token.semicolon) tokens
  (pieces.filter (! ·.isEmpty)).mapM statementOfTokens

/-- The function with the given name, parameter text and body text. -/
def parseFunction (name params body : String) : Except Unsupported Function := do
  return { name, params := ← parseParams params, body := ← parseBody body }

end StreamLinks.Cipher
