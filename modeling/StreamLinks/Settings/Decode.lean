import StreamLinks.Settings.Basic
import StreamLinks.Toml.Document

/-!
# Reading settings

Settings are read from the sections `logging` and `youtube` of a TOML
document.  Unknown keys are ignored and missing ones have their defaults, but
a key with a value of another type makes the whole document invalid.  A
section may also be an array that lists its values in order.
-/

namespace StreamLinks.Settings

open Toml (Value Entries)

/-- A reading of a value as an `α`, when its type allows it. -/
abbrev Decoder (α : Type) := Value → Option α

/-- Strings only. -/
def asString : Decoder String
  | .string content => some content
  | _ => none

/-- Booleans only. -/
def asBool : Decoder Bool
  | .boolean value => some value
  | _ => none

/-- Integers of 64 bits without a sign. -/
def asNatural : Decoder Nat
  | .integer n => if 0 ≤ n ∧ n < (Nat.pow 2 64 : Int) then some n.toNat else none
  | _ => none

/-- Arrays of strings. -/
def asStrings : Decoder (List String)
  | .array items => items.mapM asString
  | _ => none

/-- The pairs sorted by key. -/
def sortByKey (pairs : List (String × String)) : List (String × String) :=
  pairs.mergeSort fun a b => a.1 ≤ b.1

/-- Tables of strings, sorted by key. -/
def asStringTable : Decoder (List (String × String))
  | .table _ entries => do
      let pairs ← entries.mapM fun entry => (asString entry.2).map fun value => (entry.1, value)
      return sortByKey pairs
  | _ => none

/-- The values of a section, by key or in order. -/
inductive Section where
  | keyed (entries : Entries)
  | listed (items : List Value)

/-- A section is a table or an array. -/
def asSection : Decoder Section
  | .table _ entries => some (.keyed entries)
  | .array items => some (.listed items)
  | .tables last earlier =>
      some (.listed ((last :: earlier).reverse.map (Value.table .header)))
  | _ => none

/-- The value of a setting: the one with its key, or the one in its place. -/
def Section.value? (content : Section) (place : Nat) (key : String) : Option Value :=
  match content with
  | .keyed entries => Toml.find? key entries
  | .listed items => items[place]?

/-- A setting that has a default. -/
def Section.get {α : Type} (content : Section) (place : Nat) (key : String)
    (decode : Decoder α) (default : α) : Option α :=
  match content.value? place key with
  | some value => decode value
  | none => some default

/-- A setting without a default may be missing by key, but not in order. -/
def Section.getOptional (content : Section) (place : Nat) (key : String) :
    Option (Option String) :=
  match content.value? place key, content with
  | some value, _ => (asString value).map some
  | none, .keyed _ => some none
  | none, .listed _ => none

/-- The logging section. -/
def logging? (content : Section) : Option LogSettings := do
  let level ← content.getOptional 0 "level"
  let filters ← content.getOptional 1 "filters"
  let ansi ← content.get 2 "ansi" asBool true
  return { level, filters, ansi }

/-- The platform section. -/
def platform? (content : Section) : Option PlatformSettings := do
  let default : PlatformSettings := {}
  let infoUrl ← content.get 0 "info_url" asString default.infoUrl
  let watchUrl ← content.get 1 "watch_url" asString default.watchUrl
  let origin ← content.get 2 "origin" asString default.origin
  let infoVariants ← content.get 3 "info_variants" asStrings default.infoVariants
  let userAgent ← content.get 4 "user_agent" asString default.userAgent
  let headers ← content.get 5 "headers" asStringTable default.headers
  let timeoutSeconds ← content.get 6 "timeout_secs" asNatural default.timeoutSeconds
  let cookieFile ←
    content.get 7 "cookie_file" (fun value => (asString value).map some) default.cookieFile
  let probeStreams ← content.get 8 "probe_streams" asBool default.probeStreams
  let includeAdaptive ← content.get 9 "include_adaptive" asBool default.includeAdaptive
  let maxCallDepth ← content.get 10 "max_call_depth" asNatural default.maxCallDepth
  return {
    infoUrl, watchUrl, origin, infoVariants, userAgent, headers, timeoutSeconds
    cookieFile, probeStreams, includeAdaptive, maxCallDepth }

/-- The settings in the table of a document. -/
def ofEntries? (document : Entries) : Option Settings := do
  let logging ←
    match Toml.find? "logging" document with
    | none => some {}
    | some value => logging? (← asSection value)
  let platform ←
    match Toml.find? "youtube" document with
    | none => some {}
    | some value => platform? (← asSection value)
  return { logging, platform }

/-- The settings that a document writes. -/
def parse? (text : String) : Option Settings := do
  ofEntries? (← Toml.parse? text)

end StreamLinks.Settings
