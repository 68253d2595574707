import StreamLinks.Text.Bytes

/-!
# Requests and their answers

A network answers requests.  Its answer may depend on all requests made
before, so a network can change its mind.
-/

namespace StreamLinks

/-- How a URL is asked for. -/
inductive Method where
  | get
  | head
deriving DecidableEq

def Method.name : Method → String
  | .get => "GET"
  | .head => "HEAD"

structure Request where
  method : Method
  url : String
deriving DecidableEq

/-- The status and the body of an answer. -/
structure Response where
  status : Nat
  body : List UInt8
deriving DecidableEq

namespace Response

def text (response : Response) : String :=
  Text.decodeLossy response.body

/-- The status says that the request succeeded. -/
def isSuccess (response : Response) : Bool :=
  200 ≤ response.status && response.status < 300

end Response

/-- Why a request gives nothing to work with. -/
inductive TransportError where
  | request (url message : String)
  /-- The answer has another status than success. -/
  | status (url : String) (code : Nat)
  /-- No request can be made at all. -/
  | client (message : String)
deriving DecidableEq

def TransportError.message : TransportError → String
  | .request url message => "request to " ++ url ++ " failed: " ++ message
  | .status url code => "request to " ++ url ++ " returned status " ++ toString code
  | .client message => "failed to build http client: " ++ message

/-- The response itself, when its status is success. -/
def Response.checked (response : Response) (url : String) : Except TransportError Response :=
  if response.isSuccess then .ok response else .error (.status url response.status)

/-- How requests are answered: with a response, or for `head` with its status,
or else with the reason why there is none.  The requests made before are
listed oldest first. -/
structure Network where
  get : (before : List Request) → (url : String) → Except String Response
  head : (before : List Request) → (url : String) → Except String Nat

/-- The network in which no request gets through. -/
def Network.unreachable : Network where
  get _ url := .error ("error sending request for url (" ++ url ++ ")")
  head _ url := .error ("error sending request for url (" ++ url ++ ")")

end StreamLinks
