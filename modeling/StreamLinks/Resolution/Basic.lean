import StreamLinks.Log
import StreamLinks.Resolution.Error
import StreamLinks.Settings.Basic

/-!
# Resolutions

A resolution makes requests one after the other, tells what is worth telling,
and stops at its first error.  The trace keeps what was done, also before an
error.
-/

namespace StreamLinks

/-- The requests made and the events told so far, oldest first. -/
structure Trace where
  requests : List Request
  events : List Log.Event
deriving DecidableEq

/-- Nothing has happened yet. -/
def Trace.empty : Trace := ⟨[], []⟩

/-- A computation over a network. -/
abbrev Resolution := ReaderT Network (ExceptT ResolveError (StateM Trace))

namespace Resolution

/-- The result of a computation over a network that goes on from a trace, and
the trace it leaves. -/
def runFrom {α : Type} (task : Resolution α) (network : Network) (trace : Trace) :
    Except ResolveError α × Trace :=
  ((task.run network).run).run trace

/-- Tells an event in the name of a part of the program. -/
def tell (target : String) (level : Log.Level) (message : String) : Resolution Unit :=
  modifyThe Trace fun trace =>
    { trace with events := trace.events ++ [{ level, message, target }] }

/-- Notes a request, and gives the requests made before it. -/
def note (request : Request) : Resolution (List Request) :=
  modifyGetThe Trace fun trace =>
    (trace.requests, { trace with requests := trace.requests ++ [request] })

/-- Asks for a URL. -/
def tryGet (url : String) : Resolution (Except TransportError Response) := do
  let network ← readThe Network
  let before ← note ⟨.get, url⟩
  return (network.get before url).mapError (.request url)

/-- Asks for the status of a URL. -/
def tryHead (url : String) : Resolution (Except TransportError Nat) := do
  let network ← readThe Network
  let before ← note ⟨.head, url⟩
  return (network.head before url).mapError (.request url)

/-- The value, or a failure of the resolution for the given reason. -/
def orFail {ε α : Type} (reason : ε → ResolveError) : Except ε α → Resolution α
  | .ok value => pure value
  | .error error => throw (reason error)

/-- The value, or a failure of the resolution when there is none. -/
def orElseFail {α : Type} (error : ResolveError) : Option α → Resolution α
  | some value => pure value
  | none => throw error

/-- The text behind a URL. -/
def fetchText (url : String) : Resolution String := do
  let response ← orFail .transport (← tryGet url)
  let response ← orFail .transport (response.checked url)
  return response.text

end Resolution

end StreamLinks
