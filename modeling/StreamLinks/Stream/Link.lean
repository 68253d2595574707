import StreamLinks.Stream.Entry

/-!
# Stream links

A stream link is a stream that can be played: its URL carries the signature
that it needs, and its label says what it is.
-/

namespace StreamLinks

/-- A playable stream. -/
structure StreamLink where
  itag : String
  title : String
  url : String
  extension : String
  quality : Option String
  label : String
deriving DecidableEq

/-- The label of a stream: its itag, its extension, and its quality if known. -/
def streamLabel (itag extension : String) (quality : Option String) : String :=
  match quality with
  | some quality => itag ++ " - " ++ extension ++ " - " ++ quality
  | none => itag ++ " - " ++ extension

/-- The URL with a signature as its last parameter. -/
def appendSignature (url signature : String) : String :=
  url ++ (if url.toList.contains '?' then "&" else "?") ++ "signature=" ++ signature

/-- The link of an entry at its final URL. -/
def StreamEntry.toLink (entry : StreamEntry) (title url : String) : StreamLink :=
  { itag := entry.itag
    title
    url
    extension := entry.extension
    quality := entry.quality
    label := streamLabel entry.itag entry.extension entry.quality }

end StreamLinks
