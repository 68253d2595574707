import StreamLinks.CommandLine.Report
import StreamLinks.CommandLine.Start

/-!
# Running the program

The exit code is 0 when all identifiers are resolved, 1 when something went
wrong, and 2 when the command line cannot be read.  The log shares the standard
error with the reports on failures.
-/

namespace StreamLinks.CommandLine

/-- What a run leaves behind, apart from its log lines and the usage. -/
structure Outcome where
  exitCode : Nat
  output : String
  errors : String
  trace : Trace := Trace.empty

def versionText : String :=
  "tubelink 0.3.0\n"

def usageText : String :=
  "Usage: tubelink [OPTIONS] <IDENTIFIERS>...\n"

def helpText : String :=
  "Resolve video identifiers into playable stream URLs\n\n"
    ++ usageText ++ "\n"
    ++ "Arguments:\n"
    ++ "  <IDENTIFIERS>...  Video ids or watch URLs\n\n"
    ++ "Options:\n"
    ++ "  -c, --config <CONFIG>  Config file (defaults to config.toml, then config.default.toml) "
    ++ "[env: TUBELINK_CONFIG=]\n"
    ++ "      --itag <ITAG>      Only list these itags, comma-separated\n"
    ++ "      --json             Print the listing as JSON\n"
    ++ "  -h, --help             Print help\n"
    ++ "  -V, --version          Print version\n"

/-- How a run ends. -/
inductive Ending where
  /-- A text was asked for. -/
  | answered (text : String)
  /-- The command line could not be read. -/
  | misused
  | refused (error : StartError)
  /-- The identifiers were gone through, after some notes. -/
  | reported (logging : LogSettings) (notes : List Log.Event) (report : Report × Trace)

def Outcome.ofReport (report : Report × Trace) : Outcome :=
  { exitCode := if report.1.success then 0 else 1
    output := report.1.output
    errors := String.join report.1.errors
    trace := report.2 }

def StartError.report (error : StartError) : String :=
  "tubelink: " ++ error.message ++ "\n"

def Outcome.ofEnding : Ending → Outcome
  | .answered text => { exitCode := 0, output := text, errors := "" }
  | .misused => { exitCode := 2, output := "", errors := "" }
  | .refused error => { exitCode := 1, output := "", errors := error.report }
  | .reported _ _ report => .ofReport report

/-! ## The standard error -/

/-- Log lines and reports in turn: the report on a failure stands behind the
line of the event that tells it. -/
def logAndReports (lineOf : Log.Event → String) :
    (events : List Log.Event) → (reports : List String) → String
  | [], reports => String.join reports
  | event :: events, reports =>
      if event.level = .error then
        lineOf event ++ String.join (reports.take 1) ++ logAndReports lineOf events (reports.drop 1)
      else lineOf event ++ logAndReports lineOf events reports

/-- The lines of what was told before the error. -/
def StartError.lines (lineOf : LogSettings → Log.Event → String) : StartError → String
  | .resolving _ logging notes => String.join (notes.map (lineOf logging))
  | _ => ""

/-- All that a run leaves on the standard error, its log lines among it. -/
def Ending.errorText (lineOf : LogSettings → Log.Event → String) : Ending → String
  | .answered _ => ""
  | .misused => usageText ++ "\nFor more information, try '--help'.\n"
  | .refused error => error.lines lineOf ++ error.report
  | .reported logging notes report =>
      String.join (notes.map (lineOf logging))
        ++ logAndReports (lineOf logging) report.2.events report.1.errors

/-! ## Runs -/

variable {m : Type → Type} [Monad m]

/-- Runs the program on the words of a command line, over the network that the
client makes, and finishes with its ending. -/
def runWith {α : Type} (files : Files m) (connect : Client → Network)
    (configVariable : Option String) (words : List String) (finish : Ending → α) : m α := do
  match Invocation.ofWords configVariable words with
  | .version => return finish (.answered versionText)
  | .help => return finish (.answered helpText)
  | .unusable => return finish .misused
  | .resolve arguments =>
      match ← start files arguments.config with
      | .error error => return finish (.refused error)
      | .ok (settings, client) =>
          return finish (.reported settings.logging client.notes
            (report settings.platform (connect client) arguments))

/-- What a run over a network leaves behind. -/
def run (files : Files m) (network : Network) (configVariable : Option String)
    (words : List String) : m Outcome :=
  runWith files (fun _ => network) configVariable words .ofEnding

end StreamLinks.CommandLine
