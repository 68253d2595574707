import StreamLinks.Text.Space
import StreamLinks.Url.Host

/-!
# URLs

An absolute URL has a scheme, perhaps a host, a path and perhaps a query.
The schemes of the web always have a host, and read backslashes as slashes;
files may have one; any other scheme has one only behind two slashes.
-/

namespace StreamLinks

/-- An absolute URL, as far as it is looked at. -/
structure Url where
  scheme : String
  host : Option Url.Host
  path : List Char
  query : Option (List Char)
deriving DecidableEq

namespace Url

/-- How the text behind a scheme is read. -/
inductive Style where
  | web
  | file
  | other
deriving DecidableEq

def styleOf (scheme : String) : Style :=
  if scheme = "file" then .file
  else if ["http", "https", "ws", "wss", "ftp"].contains scheme then .web
  else .other

/-- Backslashes count as slashes. -/
def Style.isSpecial (style : Style) : Bool :=
  style ≠ .other

/-- The text without controls and spaces at its ends, and without line breaks
and tabs anywhere. -/
def cleaned (text : List Char) : List Char :=
  let isMargin := fun c : Char => c.toNat ≤ 0x20
  (Text.dropEndWhile isMargin (text.dropWhile isMargin)).filter fun c =>
    c != '\t' && c != '\n' && c != '\r'

/-- The scheme in lower case, and the text after its colon. -/
def splitScheme? (text : List Char) : Option (String × List Char) :=
  let isSchemeChar := fun c : Char => c.isAlphanum || c == '+' || c == '-' || c == '.'
  match text.dropWhile isSchemeChar with
  | ':' :: rest =>
      if text.head?.any Char.isAlpha then
        some (Text.lowerAscii (String.ofList (text.takeWhile isSchemeChar)), rest)
      else none
  | _ => none

/-- The character separates parts of a path. -/
def isSlash (special : Bool) (c : Char) : Bool :=
  c == '/' || (special && c == '\\')

/-- The character ends the part of a URL that tells the host. -/
def endsAuthority (special : Bool) (c : Char) : Bool :=
  isSlash special c || c == '?' || c == '#'

/-- The text before the first colon outside square brackets, and the text
from that colon on. -/
def splitPort : (inBrackets : Bool) → List Char → List Char × List Char
  | _, [] => ([], [])
  | inBrackets, c :: rest =>
      if c = ':' ∧ !inBrackets then ([], c :: rest)
      else
        let (host, port) := splitPort (if c = '[' then true else if c = ']' then false else inBrackets) rest
        (c :: host, port)

/-- The text is a port of at most 16 bits, or empty. -/
def isPort (text : List Char) : Bool :=
  text.all Char.isDigit && Text.natOfDigits text < 65536

/-- The text after the last `@`, if there is one, and the text before it. -/
def splitUserinfo (authority : List Char) : Option (List Char) × List Char :=
  if authority.contains '@' then
    let server := (authority.reverse.takeWhile (· != '@')).reverse
    (some (authority.take (authority.length - server.length - 1)), server)
  else (none, authority)

/-- The host that an authority tells; `none` inside means that there is none.
`more` says that the URL goes on behind the authority. -/
def authorityHost? (toAscii? : ToAscii) (special more : Bool) (authority : List Char) :
    Option (Option Host) := do
  let (userinfo, server) := splitUserinfo authority
  if userinfo = some [] ∧ server = [] ∧ more then none
  let (text, port) := splitPort false server
  let port := port.drop 1
  let port := if special then port else port.takeWhile (· != '\\')
  if !isPort port then none
  if special then
    if text.isEmpty then none else (Host.parse? toAscii? text).map some
  else if text.isEmpty then
    let named := userinfo.any fun info => info ≠ [] ∧ info ≠ [':']
    if named ∨ server ≠ [] then none else some none
  else (Host.parseOpaque? text).map some

/-! ## Paths -/

/-- The characters that stand escaped in a path. -/
def isEscapedInPath (c : Char) : Bool :=
  c.toNat ≤ 0x20 || 0x7E < c.toNat || "\"#<>?\x60\x7b\x7d".toList.contains c

/-- The segment with its characters escaped where they have to be. -/
def escapeSegment (segment : List Char) : List Char :=
  segment.flatMap fun c => if isEscapedInPath c then Text.percentEncode c else [c]

/-- The segment with escaped dots as dots. -/
def plainDots : List Char → List Char
  | '%' :: '2' :: 'e' :: rest => '.' :: plainDots rest
  | '%' :: '2' :: 'E' :: rest => '.' :: plainDots rest
  | [] => []
  | c :: rest => c :: plainDots rest

/-- A letter and a colon or bar. -/
def isDriveLetter : List Char → Bool
  | [letter, mark] => letter.isAlpha && (mark == ':' || mark == '|')
  | _ => false

/-- Follows the segments of a path, of which those kept so far are given last
first: one dot stays where it is, two dots go back. -/
def followSegments (file : Bool) : (kept segments : List (List Char)) → List (List Char)
  | kept, [] => kept
  | kept, segment :: rest =>
      let isLast := rest.isEmpty
      let dots := plainDots segment
      if dots = ['.', '.'] then
        let parent :=
          match kept with
          | [drive] => if file ∧ isDriveLetter drive then [drive] else []
          | _ :: parent => parent
          | [] => []
        followSegments file (if isLast then [] :: parent else parent) rest
      else if dots = ['.'] then
        followSegments file (if isLast then [] :: kept else kept) rest
      else if file ∧ kept.isEmpty ∧ isDriveLetter segment then
        followSegments file ((segment.take 1 ++ [':']) :: kept) rest
      else followSegments file (escapeSegment segment :: kept) rest

/-- The segments of a path between slashes; a slash in front starts the first
one. -/
def segmentsOf (special : Bool) (text : List Char) : List (List Char) :=
  let segments := Text.splitWhere (isSlash special) text
  match segments with
  | [] :: rest => if text.isEmpty then [[]] else rest
  | segments => segments

/-- The path that a text writes.  Only a special URL has a path for sure. -/
def normalPath (style : Style) (text : List Char) : List Char :=
  if text.isEmpty ∧ !style.isSpecial then []
  else
    let kept := followSegments (style = .file) [] (segmentsOf style.isSpecial text)
    kept.reverse.flatMap fun segment => '/' :: segment

/-- The path of a URL that has no place for a host: it stands as it is, apart
from controls. -/
def opaquePath (text : List Char) : List Char :=
  text.flatMap fun c => if c.toNat < 0x20 ∨ 0x7E < c.toNat then Text.percentEncode c else [c]

/-- The path of a URL with or without a host. -/
def pathOf (style : Style) (host : Option Host) (text : List Char) : List Char :=
  if style = .other ∧ host = none ∧ text.head? ≠ some '/' then opaquePath text
  else normalPath style text

/-- The path starts with a drive letter, which takes the place of a host. -/
def startsWithDrive (path : List Char) : Bool :=
  isDriveLetter ((path.drop 1).takeWhile (· != '/'))

/-! ## URLs -/

/-- The host and the text behind it that follow the scheme of a file: `none`
inside means that there is no host. -/
def fileHost? (toAscii? : ToAscii) (text : List Char) : Option (Option Host × List Char) :=
  match text with
  | first :: second :: rest =>
      if isSlash true first && isSlash true second then
        let name := rest.takeWhile (! endsAuthority true ·)
        if name.isEmpty ∨ isDriveLetter name then some (none, rest)
        else do
          let host ← Host.parse? toAscii? name
          let host := if host = .domain "localhost" then none else some host
          some (host, rest.dropWhile (! endsAuthority true ·))
      else some (none, text)
  | text => some (none, text)

/-- The host and the text behind it that follow a scheme. -/
def hostAndRest? (toAscii? : ToAscii) (style : Style) (text : List Char) :
    Option (Option Host × List Char) := do
  let ofAuthority := fun (text : List Char) => do
    let ends := endsAuthority style.isSpecial
    let rest := text.dropWhile (! ends ·)
    let host ← authorityHost? toAscii? style.isSpecial (!rest.isEmpty)
      (text.takeWhile (! ends ·))
    return (host, rest)
  match style with
  | .file => fileHost? toAscii? text
  | .web => ofAuthority (text.dropWhile (isSlash true))
  | .other =>
      match Text.after? ['/', '/'] text with
      | some text => ofAuthority text
      | none => return (none, text)

/-- The URL that a text writes. -/
def parse? (text : String) (toAscii? : ToAscii := domainToAscii?) : Option Url := do
  let (scheme, text) ← splitScheme? (cleaned text.toList)
  let style := styleOf scheme
  let (host, rest) ← hostAndRest? toAscii? style text
  let rest := rest.takeWhile (· != '#')
  let path := pathOf style host (rest.takeWhile (· != '?'))
  let query :=
    match rest.dropWhile (· != '?') with
    | [] => none
    | _ :: query => some query
  let host := if style = .file ∧ startsWithDrive path then none else host
  return { scheme, host, path, query }

end Url

end StreamLinks
