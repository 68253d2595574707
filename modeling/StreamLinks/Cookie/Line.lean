import StreamLinks.Text.Pieces
import StreamLinks.Text.Space
import StreamLinks.Url.Basic

/-!
# Cookie files

A line of a cookie file has seven columns between tabs: the domain, a flag,
the path, whether the cookie is secure, its expiry, its name and its value.
Lines that start with `#` are comments, except that `#HttpOnly_` may stand in
front of the columns.  The flag and the expiry are not looked at.
-/

namespace StreamLinks

/-- What a line of a cookie file says. -/
structure CookieLine where
  domain : String
  path : String
  secure : Bool
  name : String
  value : String
deriving DecidableEq

namespace CookieLine

/-- The mark that may stand in front of the columns. -/
def httpOnlyMark : List Char :=
  "#HttpOnly_".toList

/-- The line without the white space around it and then without the mark. -/
def content (line : List Char) : List Char :=
  let line := Text.trim line
  (Text.after? httpOnlyMark line).getD line

/-- The cookie that the columns of a line describe; columns behind the seventh
are not looked at. -/
def ofColumns? : List (List Char) → Option CookieLine
  | domain :: _ :: path :: secure :: _ :: name :: value :: _ =>
      some
        { domain := String.ofList domain
          path := String.ofList path
          secure := Text.lowerAscii (String.ofList secure) = "true"
          name := String.ofList name
          value := String.ofList value }
  | _ => none

/-- The cookie of a line, unless it is blank, a comment or too short. -/
def ofLine? (line : List Char) : Option CookieLine :=
  match content line with
  | [] => none
  | '#' :: _ => none
  | content => ofColumns? (Text.splitAt '\t' content)

/-- The cookies of a file, in the order of its lines. -/
def ofFile (file : String) : List CookieLine :=
  (Text.splitAt '\n' file.toList).filterMap ofLine?

/-- The text by which a server sets the cookie. -/
def declaration (line : CookieLine) : String :=
  line.name ++ "=" ++ line.value ++ "; Domain=" ++ line.domain ++ "; Path=" ++ line.path
    ++ if line.secure then "; Secure" else ""

/-- The domain without the dots in front of it. -/
def bareDomain (line : CookieLine) : String :=
  String.ofList (line.domain.toList.dropWhile (· == '.'))

/-- The page from which a server sets the cookie. -/
def origin? (toAscii? : Url.ToAscii) (line : CookieLine) : Option Url :=
  Url.parse? ((if line.secure then "https" else "http") ++ "://" ++ line.bareDomain ++ line.path)
    toAscii?

end CookieLine

end StreamLinks
