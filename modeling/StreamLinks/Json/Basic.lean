/-!
# JSON values

Of a number only its text is kept; of an object all members, in order.
-/

namespace StreamLinks

inductive Json where
  | null
  | bool (value : Bool)
  | number (text : String)
  | string (content : String)
  | array (items : List Json)
  | object (members : List (String × Json))

namespace Json

/-- The value of a member of an object; of repeated keys the last one counts. -/
def member? (key : String) : Json → Option Json
  | object members => (members.reverse.find? fun entry => entry.1 == key).map Prod.snd
  | _ => none

def string? : Json → Option String
  | string content => some content
  | _ => none

end Json

end StreamLinks
