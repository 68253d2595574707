import StreamLinks.Text.Space

/-!
# Video identifiers

An identifier is any text with neither end blank; it names a video on the
platform.
-/

namespace StreamLinks

structure VideoId where
  text : String
  trimmed : Text.trimString text = text
  nonempty : text ≠ ""

namespace VideoId

/-- The identifier that a text holds between white space, unless it is blank. -/
def ofString? (text : String) : Option VideoId :=
  if h : Text.trimString text ≠ "" then
    some ⟨Text.trimString text, Text.trimString_trimString text, h⟩
  else none

end VideoId

end StreamLinks
