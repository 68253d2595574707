/-!
# Cutting text

Texts are cut at single characters into pieces, are searched for a literal,
and have a literal replaced.  A text without a place to cut is one piece, so
there is always at least one.
-/

namespace StreamLinks.Text

/-- The pieces of a list between the elements that satisfy `p`: always one
more than there are such elements. -/
def splitWhere {α : Type} (p : α → Bool) : List α → List (List α)
  | [] => [[]]
  | a :: rest =>
      if p a then [] :: splitWhere p rest
      else
        match splitWhere p rest with
        | [] => [[a]]
        | piece :: pieces => (a :: piece) :: pieces

theorem splitWhere_ne_nil {α : Type} (p : α → Bool) (xs : List α) :
    splitWhere p xs ≠ [] := by
  cases xs with
  | nil => simp [splitWhere]
  | cons a rest =>
      unfold splitWhere
      split
      · simp
      · split <;> simp

/-- The pieces of a text between the occurrences of `separator`. -/
def splitAt (separator : Char) (text : List Char) : List (List Char) :=
  splitWhere (· == separator) text

/-- The text before the first `separator` and the text after it, when there
is one. -/
def cutAt? (separator : Char) : List Char → Option (List Char × List Char)
  | [] => none
  | c :: rest =>
      if c = separator then some ([], rest)
      else (cutAt? separator rest).map fun cut => (c :: cut.1, cut.2)

/-- The rest of `text` after the literal `start`, when the text starts with it. -/
def after? : (start text : List Char) → Option (List Char)
  | [], text => some text
  | _ :: _, [] => none
  | s :: start, c :: text => if s = c then after? start text else none

/-- The rests of `text` that follow the occurrences of `literal`, leftmost first. -/
def afterEach (literal : List Char) : List Char → List (List Char)
  | [] => if literal.isEmpty then [[]] else []
  | c :: rest =>
      match after? literal (c :: rest) with
      | some tail => tail :: afterEach literal rest
      | none => afterEach literal rest

/-- The text with every occurrence of `literal`, searched from the left and
without overlaps, replaced.  `skip` counts the characters that still belong to
the occurrence replaced last. -/
def replaceFrom (literal replacement : List Char) : (skip : Nat) → List Char → List Char
  | _, [] => []
  | skip + 1, _ :: rest => replaceFrom literal replacement skip rest
  | 0, c :: rest =>
      if (after? literal (c :: rest)).isSome then
        replacement ++ replaceFrom literal replacement (literal.length - 1) rest
      else c :: replaceFrom literal replacement 0 rest

/-- The string with every occurrence of the non-empty `literal` replaced. -/
def replaceAll (text literal replacement : String) : String :=
  String.ofList (replaceFrom literal.toList replacement.toList 0 text.toList)

/-- Characters without the difference between `A`–`Z` and `a`–`z`. -/
def lowerAscii (text : String) : String :=
  text.map Char.toLower

end StreamLinks.Text
