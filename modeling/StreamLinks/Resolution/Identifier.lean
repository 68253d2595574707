import StreamLinks.Query
import StreamLinks.Resolution.Error
import StreamLinks.Url.Basic
import StreamLinks.Video.Id

/-!
# From user input to video identifiers

Users name a video by its identifier or by a URL of its watch page.  A URL
with a host has to carry the identifier as the value of its first parameter
`v`; anything else is an identifier as it stands.
-/

namespace StreamLinks

/-- The identifier in the first parameter `v` of a query. -/
def idInQuery? (query : String) : Option VideoId :=
  ((Query.pairsLossy query).find? fun pair => pair.1 == "v").bind fun pair =>
    VideoId.ofString? pair.2

/-- The identifier that trimmed input names. -/
def idOfTrimmed? (toAscii? : Url.ToAscii) (input : String) : Option VideoId :=
  match Url.parse? input toAscii? with
  | some url =>
      if url.host.isSome then idInQuery? (String.ofList (url.query.getD []))
      else VideoId.ofString? input
  | none => VideoId.ofString? input

/-- The identifier of the video that input names. -/
def identify (input : String) (toAscii? : Url.ToAscii := Url.domainToAscii?) :
    Except ResolveError VideoId :=
  let input := Text.trimString input
  match idOfTrimmed? toAscii? input with
  | some id => .ok id
  | none => .error (.invalidIdentifier input)

end StreamLinks
