import StreamLinks.Json.Basic

/-!
# Writing JSON

Values are spread over lines, each level two spaces further in.  A string is
written as it is, apart from quotes, backslashes and control characters.
-/

namespace StreamLinks.Json

/-- The text of a character inside a string. -/
def escapeChar (c : Char) : List Char :=
  if c = '"' then ['\\', '"']
  else if c = '\\' then ['\\', '\\']
  else if c = '\x08' then ['\\', 'b']
  else if c = '\t' then ['\\', 't']
  else if c = '\n' then ['\\', 'n']
  else if c = '\x0c' then ['\\', 'f']
  else if c = '\r' then ['\\', 'r']
  else if c.toNat < 0x20 then
    ['\\', 'u', '0', '0', Nat.digitChar (c.toNat / 16), Nat.digitChar (c.toNat % 16)]
  else [c]

def writeString (content : String) : List Char :=
  '"' :: (content.toList.flatMap escapeChar ++ ['"'])

/-- A line break and the margin of a level. -/
def newLine (level : Nat) : List Char :=
  '\n' :: List.replicate (2 * level) ' '

mutual

/-- The text of a value that starts on a level. -/
def write (level : Nat) : Json → List Char
  | null => "null".toList
  | bool true => "true".toList
  | bool false => "false".toList
  | number text => text.toList
  | string content => writeString content
  | array [] => ['[', ']']
  | array (item :: items) =>
      '[' :: (newLine (level + 1) ++ write (level + 1) item ++ writeItems (level + 1) items
        ++ newLine level ++ [']'])
  | object [] => ['\x7b', '\x7d']
  | object (member :: members) =>
      '\x7b' :: (newLine (level + 1) ++ writeMember (level + 1) member
        ++ writeMembers (level + 1) members ++ newLine level ++ ['\x7d'])

/-- The text of the items behind the first one. -/
def writeItems (level : Nat) : List Json → List Char
  | [] => []
  | item :: items => ',' :: (newLine level ++ write level item ++ writeItems level items)

/-- The text of a key and its value. -/
def writeMember (level : Nat) : String × Json → List Char
  | (key, value) => writeString key ++ [':', ' '] ++ write level value

/-- The text of the members behind the first one. -/
def writeMembers (level : Nat) : List (String × Json) → List Char
  | [] => []
  | member :: members =>
      ',' :: (newLine level ++ writeMember level member ++ writeMembers level members)

end

/-- The text of a value over lines. -/
def pretty (value : Json) : String :=
  String.ofList (write 0 value)

end StreamLinks.Json
