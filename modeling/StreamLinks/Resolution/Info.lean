import StreamLinks.Resolution.Basic
import StreamLinks.Video.Id
import StreamLinks.Video.Info

/-!
# Asking for information about a video

The variants of the information URL are tried in order until a record has a
token.  A record counts whatever status it comes with, because refusals carry
their reason in it.
-/

namespace StreamLinks.Resolution

/-- The reason that a record gives, as it is told. -/
def toldReason : Option String → String
  | some reason => "Some(" ++ Text.quote reason ++ ")"
  | none => "None"

/-- Tells what went wrong with a variant. -/
def warnOfVariant (id : VideoId) (variant problem : String) : Resolution Unit :=
  tell "tubelink::sources::youtube::metadata" .warn
    ("Video info variant " ++ Text.quote variant ++ " failed for " ++ id.text ++ ": " ++ problem)

/-- Tries variants in order; `last` is the record that arrived last. -/
def fetchInfoFrom (settings : PlatformSettings) (id : VideoId) :
    (last : Option VideoInfo) → (variants : List String) → Resolution VideoInfo
  | last, [] =>
      match last.bind VideoInfo.reason with
      | some reason => throw (.rejected reason)
      | none => throw .unavailable
  | last, variant :: rest => do
      match ← tryGet (settings.infoUrlFor id.text variant) with
      | .error error =>
          warnOfVariant id variant error.message
          fetchInfoFrom settings id last rest
      | .ok response =>
          let info := VideoInfo.ofBody response.text
          if info.isValid then return info
          if !response.isSuccess then
            warnOfVariant id variant ("HTTP " ++ toString response.status
              ++ " (reason " ++ toldReason info.reason ++ ")")
          fetchInfoFrom settings id (some info) rest

/-- The first usable record about a video. -/
def fetchInfo (settings : PlatformSettings) (id : VideoId) : Resolution VideoInfo :=
  fetchInfoFrom settings id none settings.infoVariants

end StreamLinks.Resolution
