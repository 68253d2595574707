import StreamLinks.Toml.Scalar

/-!
# Reading TOML

A document is a sequence of lines: keys with values, headers, and comments.
Values draw on a nesting budget.
-/

namespace StreamLinks.Toml

open Text (Reader)

/-- A key with the keys in front of its dots. -/
structure KeyPath where
  parents : List String
  last : String

/-- What a line of a document says. -/
inductive Line where
  | pair (key : KeyPath) (value : Value)
  | header (key : KeyPath)
  | repeatedHeader (key : KeyPath)

/-- Blanks inside a line. -/
def isBlank (c : Char) : Bool :=
  c == ' ' || c == '\t'

/-- The text after blanks. -/
def skipBlank (text : List Char) : List Char :=
  text.dropWhile isBlank

/-- Characters that may stand in comments and strings: no controls but the tab. -/
def isVisible (c : Char) : Bool :=
  c == '\t' || (0x20 ≤ c.toNat && c.toNat ≠ 0x7F)

/-- The text after a line break. -/
def afterNewline? : List Char → Option (List Char)
  | '\n' :: rest => some rest
  | '\r' :: '\n' :: rest => some rest
  | _ => none

/-! ## Strings -/

/-- The number of blanks and line breaks at the front of a text. -/
def breakLength : List Char → Nat
  | ' ' :: rest => breakLength rest + 1
  | '\t' :: rest => breakLength rest + 1
  | '\n' :: rest => breakLength rest + 1
  | '\r' :: '\n' :: rest => breakLength rest + 2
  | _ => 0

/-- The character written by `count` hexadecimal digits. -/
def hexChar? (count : Nat) (text : List Char) : Option (Char × Nat) := do
  let code ← Text.hexNumber? count text
  if code.isValidChar then some (Char.ofNat code, count + 1) else none

/-- The character that an escape stands for, given the text after its
backslash, and how much of that text belongs to it. -/
def escape? : List Char → Option (Char × Nat)
  | 'b' :: _ => some ('\x08', 1)
  | 't' :: _ => some ('\t', 1)
  | 'n' :: _ => some ('\n', 1)
  | 'f' :: _ => some ('\x0c', 1)
  | 'r' :: _ => some ('\r', 1)
  | 'e' :: _ => some ('\x1b', 1)
  | '"' :: _ => some ('"', 1)
  | '\\' :: _ => some ('\\', 1)
  | 'x' :: rest => hexChar? 2 rest
  | 'u' :: rest => hexChar? 4 rest
  | 'U' :: rest => hexChar? 8 rest
  | _ => none

/-- The content of a string on one line up to its closing quote, with or
without escapes.  `skip` counts characters that belong to the escape before. -/
def readContent (quote : Char) (escapes : Bool) : (skip : Nat) → Reader (List Char)
  | _, [] => none
  | skip + 1, _ :: rest => readContent quote escapes skip rest
  | 0, c :: rest =>
      if c = quote then some ([], rest)
      else if c = '\\' ∧ escapes then do
        let (escaped, length) ← escape? rest
        let (content, rest) ← readContent quote escapes length rest
        return (escaped :: content, rest)
      else if isVisible c then do
        let (content, rest) ← readContent quote escapes 0 rest
        return (c :: content, rest)
      else none

/-- The content of a string of several lines up to its three closing quotes.
Two more quotes may stand directly before them.  A backslash at the end of a
line removes all blanks and line breaks up to the next character. -/
def readLines (quote : Char) (escapes : Bool) : (skip : Nat) → Reader (List Char)
  | _, [] => none
  | skip + 1, _ :: rest => readLines quote escapes skip rest
  | 0, c :: rest =>
      let quotes := ((c :: rest).takeWhile (· == quote)).length
      if 3 ≤ quotes then
        let kept := min (quotes - 3) 2
        some (List.replicate kept quote, (c :: rest).drop (3 + kept))
      else if c = '\\' ∧ escapes then
        if (afterNewline? (skipBlank rest)).isSome then
          readLines quote escapes (breakLength rest) rest
        else do
          let (escaped, length) ← escape? rest
          let (content, rest) ← readLines quote escapes length rest
          return (escaped :: content, rest)
      else if isVisible c ∨ (afterNewline? (c :: rest)).isSome ∨ c = '\n' then do
        let (content, rest) ← readLines quote escapes 0 rest
        return (c :: content, rest)
      else none

/-- The text after a line break, if it starts with one. -/
def dropNewline (text : List Char) : List Char :=
  (afterNewline? text).getD text

/-- A string on one line. -/
def readLineString : Reader String
  | '"' :: rest => (readContent '"' true 0 rest).map fun (cs, rest) => (String.ofList cs, rest)
  | '\'' :: rest => (readContent '\'' false 0 rest).map fun (cs, rest) => (String.ofList cs, rest)
  | _ => none

/-- A string of either form. -/
def readString : Reader String
  | '"' :: '"' :: '"' :: rest =>
      (readLines '"' true 0 (dropNewline rest)).map fun (cs, rest) => (String.ofList cs, rest)
  | '\'' :: '\'' :: '\'' :: rest =>
      (readLines '\'' false 0 (dropNewline rest)).map fun (cs, rest) => (String.ofList cs, rest)
  | text => readLineString text

/-! ## Keys -/

/-- The characters of keys without quotes. -/
def isBareChar (c : Char) : Bool :=
  c.isAlphanum || c == '_' || c == '-'

/-- One key, bare or quoted. -/
def readKey : Reader String := fun text =>
  match text.takeWhile isBareChar with
  | [] => readLineString text
  | bare => some (String.ofList bare, text.dropWhile isBareChar)

/-- The keys after the first one, each behind a dot, at most `count` of them. -/
def readMoreKeys : (count : Nat) → (first : String) → Reader KeyPath
  | 0, first, text => some (⟨[], first⟩, text)
  | count + 1, first, text =>
      match skipBlank text with
      | '.' :: rest => do
          let (next, rest) ← readKey (skipBlank rest)
          let (path, rest) ← readMoreKeys count next rest
          return (⟨first :: path.parents, path.last⟩, rest)
      | _ => some (⟨[], first⟩, text)

def readKeyPath : Reader KeyPath := fun text => do
  let (first, rest) ← readKey text
  readMoreKeys rest.length first rest

/-! ## Tables under construction -/

def find? (key : String) (entries : Entries) : Option Value :=
  (entries.find? fun entry => entry.1 == key).map Prod.snd

/-- The entries with the value of a key replaced, or put at the end. -/
def store (key : String) (value : Value) : Entries → Entries
  | [] => [(key, value)]
  | (other, old) :: rest =>
      if other = key then (key, value) :: rest else (other, old) :: store key value rest

/-- Changes the table at the end of a path, and makes the tables on the way
that are missing.  On the way of dotted keys only dotted tables are made, and
tables with a header of their own are not entered. -/
def updateAt (dotted : Bool) (change : TableForm → Entries → Option Entries) :
    List String → TableForm → Entries → Option Entries
  | [], form, entries => change form entries
  | key :: path, _, entries =>
      match find? key entries with
      | none => do
          let form := if dotted then TableForm.dotted else .implicit
          let inner ← updateAt dotted change path form []
          return store key (.table form inner) entries
      | some (.table form inner) =>
          if form = .inline ∨ (dotted ∧ form = .header) then none
          else do
            let inner ← updateAt dotted change path form inner
            return store key (.table form inner) entries
      | some (.tables last earlier) => do
          let last ← updateAt dotted change path .header last
          return store key (.tables last earlier) entries
      | some _ => none

/-- A table with one more key.  Dotted keys end in tables made by dotted keys. -/
def addPair (key : KeyPath) (value : Value) (form : TableForm) (entries : Entries) :
    Option Entries :=
  updateAt true
    (fun form entries =>
      if (form == .dotted) == key.parents.isEmpty then none
      else if (find? key.last entries).isSome then none
      else some (entries ++ [(key.last, value)]))
    key.parents form entries

/-! ## Values -/

/-- The text after blanks, line breaks and comments; `inComment` says whether
the text starts inside a comment. -/
def skipTrivia : (inComment : Bool) → List Char → Option (List Char)
  | _, [] => some []
  | inComment, c :: rest =>
      if c = '\n' then skipTrivia false rest
      else if c = '\r' then if rest.head? = some '\n' then skipTrivia false rest else none
      else if inComment then if isVisible c then skipTrivia true rest else none
      else if isBlank c then skipTrivia false rest
      else if c = '#' then skipTrivia true rest
      else some (c :: rest)

/-- The values of an array up to its closing bracket, at most `count` of them. -/
def readItems (value : Reader Value) : (count : Nat) → Reader (List Value)
  | 0, _ => none
  | count + 1, text => do
      match ← skipTrivia false text with
      | ']' :: rest => return ([], rest)
      | text =>
          let (item, rest) ← value text
          match ← skipTrivia false rest with
          | ']' :: rest => return ([item], rest)
          | ',' :: rest =>
              let (items, rest) ← readItems value count rest
              return (item :: items, rest)
          | _ => none

/-- A key, an equals sign and a value. -/
def readPair (value : Reader Value) : Reader (KeyPath × Value) := fun text => do
  let (key, rest) ← readKeyPath text
  let rest ← Text.after? ['='] (skipBlank rest)
  let (value, rest) ← value (skipBlank rest)
  return ((key, value), rest)

/-- The pairs of an inline table up to its closing brace, at most `count` of
them, added to the given entries. -/
def readEntries (value : Reader Value) : (count : Nat) → Entries → Reader Entries
  | 0, _, _ => none
  | count + 1, entries, text => do
      match ← skipTrivia false text with
      | '}' :: rest => return (entries, rest)
      | text =>
          let ((key, value'), rest) ← readPair value text
          let entries ← addPair key value' .header entries
          match ← skipTrivia false rest with
          | '}' :: rest => return (entries, rest)
          | ',' :: rest => readEntries value count entries rest
          | _ => none

/-- A value, with `depth` more levels of arrays and inline tables allowed. -/
def readValue : (depth : Nat) → Reader Value
  | 0, text =>
      match text with
      | '[' :: _ => none
      | '{' :: _ => none
      | _ => readLeaf text
  | depth + 1, text =>
      match text with
      | '[' :: rest =>
          (readItems (readValue depth) (rest.length + 1) rest).map fun (items, rest) =>
            (.array items, rest)
      | '{' :: rest =>
          (readEntries (readValue depth) (rest.length + 1) [] rest).map fun (entries, rest) =>
            (.table .inline entries, rest)
      | _ => readLeaf text
where
  readLeaf (text : List Char) : Option (Value × List Char) :=
    match text with
    | '"' :: _ => (readString text).map fun (content, rest) => (.string content, rest)
    | '\'' :: _ => (readString text).map fun (content, rest) => (.string content, rest)
    | _ => readScalar text

/-- The number of arrays and inline tables that may stand inside one another. -/
def maxDepth : Nat := 80

/-! ## Lines -/

/-- The text after the end of a line, with a comment in front of it allowed. -/
def afterLine? (text : List Char) : Option (List Char) :=
  let text :=
    match skipBlank text with
    | '#' :: rest => rest.dropWhile isVisible
    | text => text
  match text with
  | [] => some []
  | text => afterNewline? text

/-- What a line says, unless it is empty. -/
def readLine : Reader (Option Line) := fun text =>
  match skipBlank text with
  | [] => some (none, [])
  | '#' :: rest => some (none, '#' :: rest)
  | '\n' :: rest => some (none, '\n' :: rest)
  | '\r' :: rest => some (none, '\r' :: rest)
  | '[' :: '[' :: rest => do
      let (key, rest) ← readKeyPath (skipBlank rest)
      let rest ← Text.after? [']', ']'] (skipBlank rest)
      return (some (.repeatedHeader key), rest)
  | '[' :: rest => do
      let (key, rest) ← readKeyPath (skipBlank rest)
      let rest ← Text.after? [']'] (skipBlank rest)
      return (some (.header key), rest)
  | text => do
      let ((key, value), rest) ← readPair (readValue maxDepth) text
      return (some (.pair key value), rest)

/-- The lines of a text, at most `count` of them. -/
def readAllLines : (count : Nat) → List Char → Option (List Line)
  | 0, text => if text.isEmpty then some [] else none
  | _ + 1, [] => some []
  | count + 1, text => do
      let (line, rest) ← readLine text
      let lines ← readAllLines count (← afterLine? rest)
      return line.toList ++ lines

end StreamLinks.Toml
