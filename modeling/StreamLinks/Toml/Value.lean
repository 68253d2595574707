/-!
# TOML values

A table remembers how it came about, because that decides who may still add
to it: an inline table is complete, a table that was only passed through may
get a header of its own later, and one made by dotted keys grows by dotted
keys alone.
-/

namespace StreamLinks.Toml

/-- How a table came about. -/
inductive TableForm where
  /-- Written in braces. -/
  | inline
  /-- Passed through on the way to the table of a header. -/
  | implicit
  /-- Made by dotted keys. -/
  | dotted
  /-- Opened by a header of its own, or the document itself. -/
  | header
deriving DecidableEq

/-- A TOML value.  Of floats and dates nothing is kept. -/
inductive Value where
  | string (content : String)
  | integer (n : Int)
  | float
  | boolean (value : Bool)
  | datetime
  | array (items : List Value)
  /-- The tables of a repeated header, the last one first. -/
  | tables (last : List (String × Value)) (earlier : List (List (String × Value)))
  | table (form : TableForm) (entries : List (String × Value))

/-- The keys of a table with their values. -/
abbrev Entries := List (String × Value)

end StreamLinks.Toml
