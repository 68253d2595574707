import StreamLinks.Query

/-!
# Video information

What the platform tells about a video is a form-encoded record.  Only a
record with a token can be used.
-/

namespace StreamLinks

/-- A decoded record about a video. -/
structure VideoInfo where
  token : Option String
  title : Option String
  reason : Option String
  status : Option String
  streamMap : Option String
  adaptiveFormats : Option String
deriving DecidableEq

namespace VideoInfo

/-- The record that the body of an answer holds. -/
def ofBody (body : String) : VideoInfo :=
  let fields := Query.parse body
  { token := fields.get? "token"
    title := fields.get? "title"
    reason := fields.get? "reason"
    status := fields.get? "status"
    streamMap := fields.get? "url_encoded_fmt_stream_map"
    adaptiveFormats := fields.get? "adaptive_fmts" }

/-- The record has a token. -/
def isValid (info : VideoInfo) : Bool :=
  match info.token with
  | some token => token ≠ ""
  | none => false

end VideoInfo

/-- A stream map with the adaptive streams behind it, if any are wanted. -/
def withAdaptive (includeAdaptive : Bool) (streamMap : String) (adaptive : Option String) :
    String :=
  match adaptive with
  | some adaptive =>
      if !includeAdaptive || adaptive = "" then streamMap
      else if streamMap = "" then adaptive
      else streamMap ++ "," ++ adaptive
  | none => streamMap

end StreamLinks
