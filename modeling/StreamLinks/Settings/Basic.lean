import StreamLinks.Text.Pieces

/-!
# Settings

What can be configured, and what holds when nothing is said.  URL templates
have the placeholders `{video_id}` and `{variant}`.
-/

namespace StreamLinks

/-- What is logged, and how. -/
structure LogSettings where
  level : Option String := none
  filters : Option String := none
  ansi : Bool := true
deriving DecidableEq

/-- How the platform is reached, and what a resolution does. -/
structure PlatformSettings where
  infoUrl : String :=
    "https://www.youtube.com/get_video_info?&video_id=\x7bvideo_id\x7d\x7bvariant\x7d"
      ++ "&ps=default&eurl=&gl=US&hl=en"
  watchUrl : String :=
    "https://www.youtube.com/watch?v=\x7bvideo_id\x7d&gl=US&hl=en&has_verified=1"
  origin : String := "https://www.youtube.com"
  infoVariants : List String := ["&el=embedded", "&el=detailpage", "&el=vevo", ""]
  userAgent : String :=
    "Mozilla/5.0 (X11; Linux x86_64) AppleWebKit/537.36 (KHTML, like Gecko) "
      ++ "Chrome/134.0.0.0 Safari/537.36"
  headers : List (String × String) :=
    [("Accept", "text/html,application/xhtml+xml,application/xml;q=0.9,*/*;q=0.8"),
      ("Accept-Charset", "ISO-8859-1,utf-8;q=0.7,*;q=0.7"),
      ("Accept-Language", "en-us,en;q=0.5")]
  timeoutSeconds : Nat := 10
  cookieFile : Option String := none
  probeStreams : Bool := true
  includeAdaptive : Bool := false
  maxCallDepth : Nat := 50

/-- All settings. -/
structure Settings where
  logging : LogSettings := {}
  platform : PlatformSettings := {}

namespace PlatformSettings

/-- The URL of the information about a video.  The identifier is put in first;
the variant then goes to every placeholder for it. -/
def infoUrlFor (settings : PlatformSettings) (id variant : String) : String :=
  Text.replaceAll (Text.replaceAll settings.infoUrl "\x7bvideo_id\x7d" id)
    "\x7bvariant\x7d" variant

/-- The URL of the watch page of a video. -/
def watchUrlFor (settings : PlatformSettings) (id : String) : String :=
  Text.replaceAll settings.watchUrl "\x7bvideo_id\x7d" id

/-- The time a request may take, which is never zero. -/
def timeout (settings : PlatformSettings) : Nat :=
  max settings.timeoutSeconds 1

end PlatformSettings

end StreamLinks
