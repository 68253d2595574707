import StreamLinks.Resolution.Info
import StreamLinks.Resolution.Player
import StreamLinks.Stream.Link

/-!
# Resolving a video into links

The entries of the stream map are taken in order.  The player script is
loaded when the first scrambled signature needs it and serves all the others.
An entry whose probe is answered by "forbidden" is dropped, and of entries
with one itag the last one counts, in the place of the first.
-/

namespace StreamLinks.Resolution

/-- The status by which a stream refuses to be played. -/
def forbidden : Nat := 403

/-- The final URL of an entry, and the unscrambler if one has been loaded. -/
def finalUrl (settings : PlatformSettings) (id : VideoId) (unscrambler : Option Unscrambler)
    (entry : StreamEntry) : Resolution (String × Option Unscrambler) := do
  match entry.signature with
  | .plain signature => return (appendSignature entry.url signature, unscrambler)
  | .absent => return (entry.url, unscrambler)
  | .scrambled scrambled =>
      let loaded ←
        match unscrambler with
        | some loaded => pure loaded
        | none => loadUnscrambler settings id
      let (signature, loaded) ← loaded.apply scrambled
      return (appendSignature entry.url signature, some loaded)

/-- Tells what becomes of a stream map. -/
def tellOfStreams (level : Log.Level) (message : String) : Resolution Unit :=
  tell "tubelink::sources::youtube::resolver" level message

/-- Whether an entry stays in the listing.  Only a probe that is forbidden
drops it. -/
def survivesProbe (settings : PlatformSettings) (id : VideoId) (entry : StreamEntry)
    (url : String) : Resolution Bool := do
  if !settings.probeStreams then return true
  match ← tryHead url with
  | .ok status =>
      if status = forbidden then
        tellOfStreams .warn ("Dropping itag " ++ entry.itag ++ " of " ++ id.text
          ++ ": probe returned 403")
        return false
      return true
  | .error _ => return true

/-- The links of fragments, added to a listing by itag. -/
def resolveFragments (settings : PlatformSettings) (id : VideoId) (title : String) :
    (unscrambler : Option Unscrambler) → (listing : Dictionary StreamLink) →
      (fragments : List String) → Resolution (Dictionary StreamLink)
  | _, listing, [] => return listing
  | unscrambler, listing, fragment :: rest => do
      match StreamEntry.ofFragment? fragment with
      | none =>
          tellOfStreams .warn
            ("Skipping stream entry of " ++ id.text ++ " without itag or url")
          resolveFragments settings id title unscrambler listing rest
      | some entry =>
          let (url, unscrambler) ← finalUrl settings id unscrambler entry
          let listing ←
            if ← survivesProbe settings id entry url then
              pure (listing.put entry.itag (entry.toLink title url))
            else pure listing
          resolveFragments settings id title unscrambler listing rest

/-- The stream map of a video: the one in its record, or the one on its watch
page when the record has scrambled signatures. -/
def chooseStreamMap (settings : PlatformSettings) (id : VideoId) (info : VideoInfo) :
    Resolution String := do
  let streamMap :=
    withAdaptive settings.includeAdaptive (info.streamMap.getD "") info.adaptiveFormats
  if isScrambled streamMap then extractStreamMap settings id else return streamMap

/-- The playable streams of a video. -/
def resolve (settings : PlatformSettings) (id : VideoId) : Resolution (List StreamLink) := do
  let info ← fetchInfo settings id
  let streamMap ← chooseStreamMap settings id info
  let listing ←
    resolveFragments settings id (info.title.getD "") none Dictionary.empty
      (fragments streamMap)
  tellOfStreams .info
    ("Resolved " ++ toString listing.entries.length ++ " streams for " ++ id.text)
  return listing.values

end StreamLinks.Resolution
