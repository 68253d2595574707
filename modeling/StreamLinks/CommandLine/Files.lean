import StreamLinks.Text.Pieces

/-!
# Files

A file system is known by what can be done with it.  The monad says where it
is: in a list, or on a disk.
-/

namespace StreamLinks

/-- Why a file or folder cannot be used. -/
inductive FileError where
  | missing
  | isFolder
  | notFolder
  | alreadyThere
  | forbidden
  | notText
  | other (message : String)
deriving DecidableEq

def FileError.message : FileError → String
  | .missing => "No such file or directory (os error 2)"
  | .isFolder => "Is a directory (os error 21)"
  | .notFolder => "Not a directory (os error 20)"
  | .alreadyThere => "File exists (os error 17)"
  | .forbidden => "Permission denied (os error 13)"
  | .notText => "stream did not contain valid UTF-8"
  | .other message => message

/-- What can be done with files: reading the text of one, and making a folder
with all folders above it. -/
structure Files (m : Type → Type) where
  read : (path : String) → m (Except FileError String)
  makeFolder : (path : String) → m (Except FileError Unit)

namespace Files

/-- The names in a path.  Empty names and single dots say nothing, except for
a dot in front. -/
def namesOf (path : String) : List (List Char) :=
  match Text.splitAt '/' path.toList with
  | ['.'] :: rest => ['.'] :: rest.filter (fun name => name ≠ [] ∧ name ≠ ['.'])
  | names => names.filter (fun name => name ≠ [] ∧ name ≠ ['.'])

/-- The folder that a path leads into, unless it is the one that everything
starts from. -/
def folderOf? (path : String) : Option String :=
  let names := String.intercalate "/" ((namesOf path).dropLast.map String.ofList)
  if path.toList.head? = some '/' then
    if (namesOf path).isEmpty then none else some ("/" ++ names)
  else if names = "" then none
  else some names

end Files

end StreamLinks
