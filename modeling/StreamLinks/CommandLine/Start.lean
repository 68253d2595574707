import StreamLinks.Client
import StreamLinks.CommandLine.Files
import StreamLinks.Settings.Decode

/-!
# Before the first identifier

The settings are read from a file, the cookies from another, and the headers
of all requests have to be in order.  The first thing that is wrong ends the
program.
-/

namespace StreamLinks.CommandLine

/-- Why nothing can be resolved at all. -/
inductive StartError where
  | settingsUnreadable (path : String) (error : FileError)
  | settingsMalformed (path : String)
  | cookiesUnreadable (path : String) (error : FileError)
  /-- Nothing can be requested.  By then there are notes on the cookies. -/
  | resolving (error : ResolveError) (logging : LogSettings) (notes : List Log.Event)
deriving DecidableEq

def StartError.message : StartError → String
  | .settingsUnreadable path error => "failed to read " ++ path ++ ": " ++ error.message
  | .settingsMalformed path => path ++ ": TOML parse error"
  | .cookiesUnreadable path error =>
      "failed to load cookie file " ++ path ++ ": " ++ error.message
  | .resolving error _ _ => error.message

variable {m : Type → Type} [Monad m]

def readSettings (files : Files m) (path : String) : m (Except StartError Settings) := do
  match ← files.read path with
  | .error error => return .error (.settingsUnreadable path error)
  | .ok text =>
      match Settings.parse? text with
      | some settings => return .ok settings
      | none => return .error (.settingsMalformed path)

/-- The settings in the first of the files that is there; without any of them
nothing is configured. -/
def findSettings (files : Files m) : (paths : List String) → m (Except StartError Settings)
  | [] => return .ok {}
  | path :: paths => do
      match ← readSettings files path with
      | .error (.settingsUnreadable _ .missing) => findSettings files paths
      | result => return result

/-- The settings of a run: those in the chosen file, or in one of the usual
files. -/
def loadSettings (files : Files m) (chosen : Option String) : m (Except StartError Settings) :=
  match chosen with
  | some path => readSettings files path
  | none => findSettings files ["config.toml", "config.default.toml"]

/-- Tells something about the cookies. -/
def cookieNote (level : Log.Level) (message : String) : Log.Event :=
  { level, message, target := "tubelink::common::cookies" }

/-- What is told about the cookies in a file: which of them have a domain that
is no host, and how many there are. -/
def cookieNotes (path content : String) (toAscii? : Url.ToAscii := Url.domainToAscii?) :
    List Log.Event :=
  let lines := CookieLine.ofFile content
  let skipped := lines.filter fun line => (line.origin? toAscii?).isNone
  skipped.map (fun line =>
      cookieNote .warn ("skipping cookie " ++ line.name ++ " with bad domain " ++ line.domain))
    ++ [cookieNote .info ("loaded " ++ toString lines.length ++ " cookies from " ++ path)]

/-- The cookies in a file, with what is told about them.  The folder of the
file is made, and a missing file has no cookies. -/
def readCookies (files : Files m) (path : String) :
    m (Except FileError (CookieJar × List Log.Event)) := do
  let folder ←
    match Files.folderOf? path with
    | some folder => files.makeFolder folder
    | none => pure (.ok ())
  match folder with
  | .error error => return .error error
  | .ok () =>
      match ← files.read path with
      | .error .missing => return .ok (CookieJar.empty, [])
      | .error error => return .error error
      | .ok content => return .ok (CookieJar.ofFile content, cookieNotes path content)

def loadCookies (files : Files m) (settings : PlatformSettings) :
    m (Except StartError (CookieJar × List Log.Event)) := do
  match settings.cookieFile with
  | none => return .ok (CookieJar.empty, [])
  | some path =>
      return (← readCookies files path).mapError (.cookiesUnreadable path)

/-- The settings and the client of a run. -/
def start (files : Files m) (chosen : Option String) :
    m (Except StartError (Settings × Client)) := do
  match ← loadSettings files chosen with
  | .error error => return .error error
  | .ok settings =>
      match ← loadCookies files settings.platform with
      | .error error => return .error error
      | .ok (cookies, notes) =>
          match Client.ofSettings settings.platform cookies with
          | .error error => return .error (.resolving error settings.logging notes)
          | .ok client => return .ok (settings, { client with notes })

end StreamLinks.CommandLine
