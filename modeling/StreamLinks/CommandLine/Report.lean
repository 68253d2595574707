import StreamLinks.CommandLine.Arguments
import StreamLinks.Json.Printer
import StreamLinks.Resolution.Identifier
import StreamLinks.Resolution.Streams

/-!
# Reports

A run reports on its identifiers one after the other.  The links of one are
listed on the standard output; what went wrong with another is told on the
standard error and in the log, and the run goes on.
-/

namespace StreamLinks.CommandLine

/-- What a run has printed, with a text for each failure, and whether
everything went well. -/
structure Report where
  output : String
  errors : List String
  success : Bool
deriving DecidableEq

namespace Report

/-- Nothing is printed, and nothing went wrong. -/
def empty : Report := ⟨"", [], true⟩

def append (first second : Report) : Report :=
  ⟨first.output ++ second.output, first.errors ++ second.errors,
    first.success && second.success⟩

instance : Append Report := ⟨append⟩

/-- A report that only tells a failure. -/
def failure (message : String) : Report :=
  ⟨"", [message ++ "\n"], false⟩

end Report

/-- The links with one of the itags; without itags all of them. -/
def selectItags (itags : List String) (links : List StreamLink) : List StreamLink :=
  if itags.isEmpty then links else links.filter fun link => itags.contains link.itag

/-- A link as a JSON object with its members in order. -/
def linkJson (link : StreamLink) : Json :=
  .object
    ([("extension", .string link.extension), ("itag", .string link.itag),
        ("label", .string link.label)]
      ++ (link.quality.map fun quality => ("quality", Json.string quality)).toList
      ++ [("title", .string link.title), ("url", .string link.url)])

/-- The listing of links as lines of text. -/
def plainListing (links : List StreamLink) : String :=
  String.join (links.map fun link => link.label ++ "\n\t" ++ link.url ++ "\n")

/-- The listing of links as JSON. -/
def jsonListing (input : String) (links : List StreamLink) : String :=
  (Json.object
    [("identifier", .string input), ("streams", .array (links.map linkJson))]).pretty ++ "\n"

/-- The listing of the links for what the user typed. -/
def listing (form : Form) (input : String) (links : List StreamLink) : String :=
  match form with
  | .plain => plainListing links
  | .json => jsonListing input links

def resolveInput (settings : PlatformSettings) (input : String) :
    Resolution (List StreamLink) := do
  let id ← Resolution.orFail (fun error => error) (identify input)
  Resolution.tell "tubelink" .info ("Resolving " ++ id.text)
  Resolution.resolve settings id

/-- The report on what the user typed. -/
def reportOn (arguments : Arguments) (input : String) :
    Except ResolveError (List StreamLink) → Report
  | .ok links => ⟨listing arguments.form input (selectItags arguments.itags links), [], true⟩
  | .error error => .failure (input ++ ": " ++ error.message)

/-- The trace with an event that tells a failure on what the user typed. -/
def noteFailure (input : String) (trace : Trace) : Except ResolveError (List StreamLink) → Trace
  | .ok _ => trace
  | .error error =>
      { trace with
        events := trace.events ++
          [{ level := .error
             message := "Failed to resolve " ++ input ++ ": " ++ error.message }] }

/-- The report on identifiers, going on from what was requested before. -/
def reportFrom (settings : PlatformSettings) (network : Network) (arguments : Arguments) :
    Trace → (inputs : List String) → Report × Trace
  | trace, [] => (.empty, trace)
  | trace, input :: inputs =>
      let (result, trace) := (resolveInput settings input).runFrom network trace
      let (later, trace) :=
        reportFrom settings network arguments (noteFailure input trace result) inputs
      (reportOn arguments input result ++ later, trace)

/-- The report of a run over a network. -/
def report (settings : PlatformSettings) (network : Network) (arguments : Arguments) :
    Report × Trace :=
  reportFrom settings network arguments Trace.empty arguments.identifiers

end StreamLinks.CommandLine
