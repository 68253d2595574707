import StreamLinks.Toml.Parser

/-!
# TOML documents

The lines of a document build up one table.  Every key is defined once, and
every table has at most one header.
-/

namespace StreamLinks.Toml

/-- Opens the table of a header. -/
def openTable (key : KeyPath) (root : Entries) : Option Entries :=
  updateAt false
    (fun _ entries =>
      match find? key.last entries with
      | none => some (entries ++ [(key.last, .table .header [])])
      | some (.table .implicit inner) => some (store key.last (.table .header inner) entries)
      | some _ => none)
    key.parents .header root

/-- Opens one more table of a repeated header. -/
def openNextTable (key : KeyPath) (root : Entries) : Option Entries :=
  updateAt false
    (fun _ entries =>
      match find? key.last entries with
      | none => some (entries ++ [(key.last, .tables [] [])])
      | some (.tables last earlier) => some (store key.last (.tables [] (last :: earlier)) entries)
      | some _ => none)
    key.parents .header root

/-- A document under construction: its table, and the path of the table that
pairs go to. -/
structure Draft where
  root : Entries
  current : List String

/-- The document with what one more line says. -/
def Draft.add (draft : Draft) : Line → Option Draft
  | .pair key value => do
      let root ← updateAt false (addPair key value) draft.current .header draft.root
      return { draft with root }
  | .header key => do
      return ⟨← openTable key draft.root, key.parents ++ [key.last]⟩
  | .repeatedHeader key => do
      return ⟨← openNextTable key draft.root, key.parents ++ [key.last]⟩

/-- The text without a byte order mark in front. -/
def dropByteOrderMark : List Char → List Char
  | '\uFEFF' :: rest => rest
  | text => text

/-- The table that a document writes. -/
def parse? (text : String) : Option Entries := do
  let text := dropByteOrderMark text.toList
  let lines ← readAllLines (text.length + 1) text
  let draft ← lines.foldlM Draft.add ⟨[], []⟩
  return draft.root

end StreamLinks.Toml
