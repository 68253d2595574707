import StreamLinks.Settings.Basic
import StreamLinks.Text.Quoted
import StreamLinks.Text.Space

/-!
# Log lines

A log line has a time, a level, the place that it comes from, and a message.
Controls that a terminal would act on are escaped in the message.  A filter
decides by the level of an event and the part of the program that tells it
whether there is a line for it.
-/

namespace StreamLinks.Log

/-- How important an event is. -/
inductive Level where
  | error
  | warn
  | info
  | debug
  | trace
deriving DecidableEq

def Level.name : Level → String
  | .error => "ERROR"
  | .warn => "WARN"
  | .info => "INFO"
  | .debug => "DEBUG"
  | .trace => "TRACE"

/-- The number of a level's colour on a terminal. -/
def Level.colour : Level → String
  | .error => "31"
  | .warn => "33"
  | .info => "32"
  | .debug => "34"
  | .trace => "35"

/-- Something worth telling, and the part of the program that tells it. -/
structure Event where
  level : Level
  message : String
  target : String := "tubelink"
deriving DecidableEq

/-- The control sequence that switches a terminal to a style. -/
def style (ansi : Bool) (code : String) : String :=
  if ansi then "\x1b[" ++ code ++ "m" else ""

/-- The text of a character in a message. -/
def escapeControl (c : Char) : List Char :=
  if c = '\x1b' then "\\x1b".toList
  else if c = '\x07' then "\\x07".toList
  else if c = '\x08' then "\\x08".toList
  else if c = '\x0c' then "\\x0c".toList
  else if c = '\x7f' then "\\x7f".toList
  else if 0x80 ≤ c.toNat ∧ c.toNat ≤ 0x9F then
    ['\\', 'u', '\x7b'] ++ Text.hexDigits c.toNat ++ ['\x7d']
  else [c]

/-- The line of an event at a time, from a target and a line number, both as
text. -/
def line (ansi : Bool) (time target : String) (event : Event) : String :=
  let reset := style ansi "0"
  let name := event.level.name ++ "".pushn ' ' (5 - event.level.name.length)
  style ansi "2" ++ "[" ++ time ++ "]" ++ reset ++ " "
    ++ style ansi event.level.colour ++ style ansi "1" ++ name ++ reset ++ " "
    ++ style ansi "2" ++ target ++ reset ++ " > "
    ++ String.ofList (event.message.toList.flatMap escapeControl) ++ reset ++ "\n"

/-- The filter that decides what is logged: a level for all, less for the
machinery of requests, and whatever else is configured. -/
def filterDirective (settings : LogSettings) : String :=
  let filters := settings.filters.getD ""
  settings.level.getD "info" ++ ",hyper=warn,reqwest=warn"
    ++ if filters = "" then "" else "," ++ filters

/-- How far down the levels go: only errors are told at 1, everything at 5. -/
def Level.depth : Level → Nat
  | .error => 1
  | .warn => 2
  | .info => 3
  | .debug => 4
  | .trace => 5

/-- How far down a text says that the levels go; nothing is told at 0. -/
def depthOf? (text : String) : Option Nat :=
  match Text.lowerAscii text with
  | "off" | "0" => some 0
  | "error" | "1" => some 1
  | "warn" | "2" => some 2
  | "info" | "3" => some 3
  | "debug" | "4" => some 4
  | "trace" | "5" => some 5
  | _ => none

/-- How much is told by the parts of the program whose names start with the
target. -/
structure Directive where
  target : String
  depth : Nat
deriving DecidableEq

/-- The directive that a text is: a level for everything, or a target and
perhaps its level.  Directives about spans are not read. -/
def Directive.ofText? (text : String) : Option Directive :=
  let text := String.ofList (Text.trim text.toList)
  match depthOf? text with
  | some depth => some ⟨"", depth⟩
  | none =>
      let (target, level) := (Text.cutAt? '=' text.toList).getD (text.toList, [])
      if target.head?.any (fun c => Text.isWord c || c == '-' || c == ':') ∧ '[' ∉ target then
        if level = [] then some ⟨String.ofList target, Level.depth .trace⟩
        else (depthOf? (String.ofList level)).map (⟨String.ofList target, ·⟩)
      else none

abbrev Filter := List Directive

namespace Filter

/-- The texts between the commas of a filter, without empty ones. -/
def pieces (text : String) : List String :=
  ((Text.splitAt ',' text.toList).filter (· ≠ [])).map String.ofList

/-- How far down the levels go for a target.  The longest name decides, and the
last directive for it; without any directive there are errors only. -/
def depthFor (filter : Filter) (target : String) : Nat :=
  if filter.isEmpty then Level.depth .error
  else
    let decisive := (filter.filter (·.target.isPrefixOf target)).foldl
      (fun best next => if best.target.length ≤ next.target.length then next else best) ⟨"", 0⟩
    decisive.depth

/-- The event gets a line. -/
def shows (filter : Filter) (event : Event) : Bool :=
  event.level.depth ≤ filter.depthFor event.target

/-- The filter of a run.  The environment may name one; if that cannot be read
as a whole, the readable parts of the configured one hold. -/
def ofSettings (settings : LogSettings) (chosen : Option String) : Filter :=
  match chosen.bind fun text => (pieces text).mapM Directive.ofText? with
  | some filter => filter
  | none => (pieces (filterDirective settings)).filterMap Directive.ofText?

end Filter

/-- The line of an event at a time, or nothing when the filter of the run does
not show it.  The line number of its place is not known. -/
def shownLine (settings : LogSettings) (chosen : Option String) (time : String) (event : Event) :
    String :=
  if (Filter.ofSettings settings chosen).shows event then
    line settings.ansi time (event.target ++ ":??") event
  else ""

end StreamLinks.Log
