import StreamLinks.Cookie.Declaration
import StreamLinks.Cookie.Line
import StreamLinks.Header

/-!
# Cookie jars

A jar keeps at most one cookie for a domain, a path and a name, and sends a
cookie only where it belongs: to its domain and below, under its path, and
when it is secure only over a channel that is.
-/

namespace StreamLinks

/-- The hosts that a cookie belongs to: one alone, or a domain with all names
below it. -/
inductive CookieScope where
  | host (name : String)
  | domain (name : String)
deriving DecidableEq

namespace CookieScope

def name : CookieScope → String
  | host name => name
  | domain name => name

/-- The host is a domain or lies below it.  Nothing lies below an address. -/
def isWithin (domain : String) : Url.Host → Bool
  | .domain name => name = domain || ('.' :: domain.toList).isSuffixOf name.toList
  | address => address.text = domain

/-- The host is in the scope. -/
def includes : CookieScope → Url.Host → Bool
  | host name, url => url.text = name
  | domain name, url => isWithin name url

end CookieScope

structure Cookie where
  name : String
  value : String
  scope : CookieScope
  path : List Char
  secure : Bool
  httpOnly : Bool
deriving DecidableEq

namespace Cookie

/-- The path is the cookie's path or goes on from it behind a slash. -/
def pathMatches (cookiePath path : List Char) : Bool :=
  path = cookiePath
    || (cookiePath.isPrefixOf path
      && (cookiePath.getLast? = some '/' || (path.drop cookiePath.length).head? = some '/'))

/-- The path of a cookie without one: that of the page, up to its last slash. -/
def defaultPath (path : List Char) : List Char :=
  let folder := ((path.reverse.dropWhile (· != '/')).drop 1).reverse
  if folder.isEmpty then ['/'] else folder

/-- The scheme is one of the protocols that carry cookies. -/
def isCarried (url : Url) : Bool :=
  "http".isPrefixOf url.scheme

/-- Nobody can listen on the way to the URL. -/
def isConfidential (url : Url) : Bool :=
  url.scheme = "https" || url.host.any Url.Host.isLoopback

/-- The scope that a declaration asks for, when the page may set it. -/
def scopeFor? (toAscii? : Url.ToAscii) (declaration : CookieDeclaration) (host : Url.Host) :
    Option CookieScope :=
  match declaration.domain with
  | none => some (.host host.text)
  | some domain => do
      let domain ← toAscii? (fun _ => false) (Text.trim domain.toList)
      let domain := String.ofList domain
      if domain = "" then some (.host host.text)
      else if CookieScope.isWithin domain host then some (.domain domain)
      else none

/-- The cookie that a page sets by a declaration, when the page may set it. -/
def ofDeclaration? (toAscii? : Url.ToAscii) (declaration : CookieDeclaration) (origin : Url) :
    Option Cookie := do
  let host ← origin.host
  let scope ← scopeFor? toAscii? declaration host
  let path :=
    match declaration.path.map String.toList with
    | some ('/' :: rest) => '/' :: rest
    | _ => defaultPath origin.path
  return { name := declaration.name
           value := declaration.value
           scope
           path
           secure := declaration.secure
           httpOnly := declaration.httpOnly }

/-- Two cookies that cannot be in one jar. -/
def collides (cookie other : Cookie) : Bool :=
  cookie.name = other.name && cookie.scope.name = other.scope.name && cookie.path = other.path

/-- The cookie is sent along with a request for the URL. -/
def belongsTo (cookie : Cookie) (url : Url) : Bool :=
  url.host.any cookie.scope.includes
    && pathMatches cookie.path url.path
    && (!cookie.secure || isConfidential url)
    && (!cookie.httpOnly || isCarried url)

/-- The text of a cookie in a request. -/
def text (cookie : Cookie) : String :=
  cookie.name ++ "=" ++ cookie.value

end Cookie

structure CookieJar where
  cookies : List Cookie

namespace CookieJar

def empty : CookieJar := ⟨[]⟩

/-- The jar after a page has set a cookie: an expired one only takes away. -/
def set (toAscii? : Url.ToAscii) (jar : CookieJar) (declaration : CookieDeclaration)
    (origin : Url) : CookieJar :=
  match Cookie.ofDeclaration? toAscii? declaration origin with
  | none => jar
  | some cookie =>
      let others := jar.cookies.filter (! cookie.collides ·)
      ⟨if declaration.expired then others else others ++ [cookie]⟩

/-- The jar with the cookie of a line.  A line whose domain is no host is
passed over. -/
def addLine (toAscii? : Url.ToAscii) (jar : CookieJar) (line : CookieLine) : CookieJar :=
  match line.origin? toAscii?, CookieDeclaration.parse? line.declaration with
  | some origin, some declaration => jar.set toAscii? declaration origin
  | _, _ => jar

/-- The jar that the lines of a file fill. -/
def ofFile (file : String) (toAscii? : Url.ToAscii := Url.domainToAscii?) : CookieJar :=
  (CookieLine.ofFile file).foldl (addLine toAscii?) empty

/-- The cookies sent along with a request for the URL. -/
def cookiesFor (jar : CookieJar) (url : Url) : List Cookie :=
  jar.cookies.filter (·.belongsTo url)

/-- The texts of the cookies sent along with a request, in order.  Nothing is
sent when one of them cannot stand in a header. -/
def sent? (jar : CookieJar) (url : Url) : Option (List String) :=
  let texts := ((jar.cookiesFor url).map Cookie.text).mergeSort (fun a b => decide (a ≤ b))
  if texts.isEmpty then none
  else if Headers.isValue ("; ".intercalate texts) then some texts
  else none

end CookieJar

end StreamLinks
