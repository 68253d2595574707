import StreamLinks.Cookie.Jar
import StreamLinks.Log
import StreamLinks.Resolution.Error
import StreamLinks.Settings.Basic

/-!
# Clients

A client has configured headers, a name that it goes by, and cookies.  The
configured headers come first; the others fill in what they leave open.  With
all of these, and a time limit, a request becomes a message on a wire.
-/

namespace StreamLinks

/-- What goes along with every request, and for how many seconds an answer is
waited for. -/
structure Client where
  userAgent : String
  headers : Headers
  cookies : CookieJar
  timeout : Nat
  /-- What was told while the client was made ready. -/
  notes : List Log.Event := []

/-- A request with all that goes along with it. -/
structure Message where
  request : Request
  headers : Headers
  timeout : Nat

/-- What lies behind a client: how a message is answered.  The messages sent
before are listed oldest first. -/
structure Wire where
  answer : (before : List Message) → Message → Except String Response

/-- The wire on which no message gets through. -/
def Wire.unreachable : Wire where
  answer _ message := .error ("error sending request for url (" ++ message.request.url ++ ")")

namespace Client

/-- The client that the settings describe, with cookies. -/
def ofSettings (settings : PlatformSettings) (cookies : CookieJar) :
    Except ResolveError Client :=
  if !Headers.isValue settings.userAgent then
    .error (.transport (.client "builder error"))
  else
    match Headers.ofPairs settings.headers with
    | .error error => .error (.invalidHeader error)
    | .ok headers =>
        .ok { userAgent := settings.userAgent, headers, cookies, timeout := settings.timeout }

/-- The headers with one more, unless it is there. -/
def fillIn (name : String) (value : Option String) (headers : Headers) : Headers :=
  match headers.get? name, value with
  | none, some value => headers.put name value
  | _, _ => headers

/-- The headers of a request for a URL. -/
def headersFor (client : Client) (url : Url) : Headers :=
  let cookies := (client.cookies.sent? url).map fun texts => "; ".intercalate texts
  fillIn "cookie" cookies
    (fillIn "user-agent" (some client.userAgent) (fillIn "accept" (some "*/*") client.headers))

/-- The message that a request becomes.  Only pages of the web can be asked
for. -/
def messageFor? (client : Client) (request : Request) : Option Message :=
  match Url.parse? request.url with
  | some url =>
      if url.scheme = "http" ∨ url.scheme = "https" then
        some { request, headers := client.headersFor url, timeout := client.timeout }
      else none
  | none => none

/-- The answer to a request behind others, over a wire. -/
def send (client : Client) (wire : Wire) (before : List Request) (request : Request) :
    Except String Response :=
  match client.messageFor? request with
  | some message => wire.answer (before.filterMap client.messageFor?) message
  | none => .error "builder error"

/-- The network that a client makes of a wire. -/
def network (wire : Wire) (client : Client) : Network where
  get before url := client.send wire before ⟨.get, url⟩
  head before url := (client.send wire before ⟨.head, url⟩).map Response.status

end Client

end StreamLinks
