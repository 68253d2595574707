import StreamLinks.Text.CompositionTable
import StreamLinks.Text.Pieces

/-!
# Composed text

A letter with marks can be one character or several, and marks that do not
touch each other can stand in any order.  The composed form of a text is the
same for all its spellings: every character is taken apart, marks are brought
into the order of their ranks, and what makes up a character is put together
again.
-/

namespace StreamLinks.Text

/-- The characters of a table and the texts that belong to them: a word of the
table is a character with its text. -/
def readTable (lines : List String) : List (Char × List Char) :=
  lines.flatMap fun line =>
    (splitAt ' ' line.toList).filterMap fun word =>
      match word with
      | [] => none
      | c :: text => some (c, text)

/-! ## Taking apart -/

/-- A syllable of Hangul consists of a lead, a vowel and perhaps a trail. -/
def syllableParts? (c : Char) : Option (List Char) :=
  if 0xAC00 ≤ c.toNat ∧ c.toNat ≤ 0xD7A3 then
    let place := c.toNat - 0xAC00
    let lead := Char.ofNat (0x1100 + place / 588)
    let vowel := Char.ofNat (0x1161 + place % 588 / 28)
    some (if place % 28 = 0 then [lead, vowel]
      else [lead, vowel, Char.ofNat (0x11A7 + place % 28)])
  else none

/-- Characters that are put together from others, with all that they consist of. -/
def composedChars : List (Char × List Char) :=
  readTable composedWords

/-- Characters that are only taken apart. -/
def dividedChars : List (Char × List Char) :=
  readTable dividedWords

/-- All that a character consists of. -/
def partsOf (c : Char) : List Char :=
  if c.toNat < 0xC0 then [c]
  else (syllableParts? c <|> composedChars.lookup c <|> dividedChars.lookup c).getD [c]

/-! ## The order of marks -/

/-- The rank of a mark among the marks of a letter; what is no mark of a
letter has rank zero. -/
def rankOf (c : Char) : Nat :=
  if c.toNat < 0x300 then 0
  else
    match rankRanges.find? fun (first, last, _) => first ≤ c.toNat && c.toNat ≤ last with
    | some (_, _, rank) => rank
    | none => 0

/-- Puts a character in front of a text with its marks in order: it goes
behind the marks of lower rank that the text starts with. -/
def insertMark (c : Char) : List Char → List Char
  | [] => [c]
  | d :: rest =>
      if rankOf d ≠ 0 ∧ rankOf d < rankOf c then d :: insertMark c rest else c :: d :: rest

/-- The text with the marks of each letter in the order of their ranks; marks
of one rank stay as they stand. -/
def orderMarks (text : List Char) : List Char :=
  text.foldr insertMark []

/-! ## Putting together -/

/-- The syllable that a lead and a vowel make, or a syllable and a trail. -/
def syllable? (first second : Char) : Option Char :=
  let lead := first.toNat - 0x1100
  let vowel := second.toNat - 0x1161
  if 0x1100 ≤ first.toNat ∧ lead < 19 ∧ 0x1161 ≤ second.toNat ∧ vowel < 21 then
    some (Char.ofNat (0xAC00 + (lead * 21 + vowel) * 28))
  else if 0xAC00 ≤ first.toNat ∧ first.toNat ≤ 0xD7A3 ∧ (first.toNat - 0xAC00) % 28 = 0
      ∧ 0x11A7 < second.toNat ∧ second.toNat < 0x11C3 then
    some (Char.ofNat (first.toNat + (second.toNat - 0x11A7)))
  else none

/-- Other characters can be put behind the character to make up a new one.  In ASCII
these are letters and signs of comparison. -/
def takesMarks (c : Char) : Bool :=
  0x80 ≤ c.toNat || c.isAlpha || "<=>".toList.contains c

/-- The character that consists of two others. -/
def composite? (first second : Char) : Option Char :=
  if takesMarks first && 0x300 ≤ second.toNat then
    let both := partsOf first ++ [second]
    syllable? first second <|> (composedChars.find? fun (_, parts) => parts == both).map Prod.fst
  else none

/-- The mark cannot reach the letter in front of the marks. -/
def isBlocked (marks : List Char) (c : Char) : Bool :=
  marks.getLast?.any fun mark => rankOf c ≤ rankOf mark

/-- Puts characters together with a letter, behind which the given marks were
left over. -/
def composeFrom : (letter : Char) → (marks : List Char) → List Char → List Char
  | letter, marks, [] => letter :: marks
  | letter, marks, c :: rest =>
      match if isBlocked marks c then none else composite? letter c with
      | some whole => composeFrom whole marks rest
      | none =>
          if rankOf c = 0 then letter :: (marks ++ composeFrom c [] rest)
          else composeFrom letter (marks ++ [c]) rest

/-- Puts characters together from the first letter on. -/
def compose : List Char → List Char
  | [] => []
  | c :: rest => if rankOf c = 0 then composeFrom c [] rest else c :: compose rest

/-- The composed form of a text. -/
def composed (text : List Char) : List Char :=
  compose (orderMarks (text.flatMap partsOf))

end StreamLinks.Text
