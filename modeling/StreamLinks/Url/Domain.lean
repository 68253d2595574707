import StreamLinks.Text.Composition
import StreamLinks.Url.Direction
import StreamLinks.Url.Punycode

/-!
# Domain names

A domain name is compared in its ASCII form: letters in lower case, other
characters mapped to the ones they stand for and composed, and labels that
still hold characters beyond ASCII in Punycode behind `xn--`.
-/

namespace StreamLinks.Url

/-! ## Mapping -/

/-- The characters that stand for others one by one. -/
def mappedChars : List (Char × List Char) :=
  (Text.readTable mappedWords).map fun (c, image) =>
    (c, image.map fun d => if d = '␣' then ' ' else d)

/-- The character that stands in place of `c` when `c` lies in the range. -/
def shiftBy? (step : Nat) (c : Char) (range : Nat × Nat × Nat) : Option Char :=
  let (first, last, image) := range
  if first ≤ c.toNat ∧ c.toNat ≤ last ∧ (c.toNat - first) % step = 0 then
    some (Char.ofNat (image + (c.toNat - first)))
  else none

/-- What a character of a domain name stands for, if it may stand there. -/
def mapChar? (c : Char) : Option (List Char) :=
  if c.toNat < 0x80 then some [c.toLower]
  else if Text.inRanges refusedRanges c then none
  else if Text.inRanges droppedRanges c then some []
  else
    match shiftedRanges.findSome? (shiftBy? 1 c) <|> alternateRanges.findSome? (shiftBy? 2 c) with
    | some image => some [image]
    | none => some ((mappedChars.lookup c).getD [c])

def isAscii (text : List Char) : Bool :=
  text.all fun c => c.toNat < 0x80

/-! ## Labels -/

/-- The mark does not come between letters that are written joined. -/
def isTransparent (c : Char) : Bool :=
  isNonspacing c || c.toNat == 0x1E94B

/-- The nearest letter of a text joins its neighbour; marks on the way do not
count. -/
def nearestJoins (joining : List (Nat × Nat)) (text : List Char) : Bool :=
  (text.dropWhile isTransparent).head?.any (Text.inRanges joining ·)

/-- The sign takes the vowel from the letter in front of it. -/
def isVirama (c : Char) : Bool :=
  Text.rankOf c == 9

/-- Each joiner stands where it makes a difference: behind a virama, or for the
one that keeps letters apart also between letters that would join.  The text
in front is given last character first. -/
def joinersFit : (before : List Char) → List Char → Bool
  | _, [] => true
  | before, c :: rest =>
      let behindVirama := before.head?.any isVirama
      let fits :=
        if c = '\u200D' then behindVirama
        else if c = '\u200C' then
          behindVirama
            || (nearestJoins joinsNextRanges before && nearestJoins joinsPreviousRanges rest)
        else true
      fits && joinersFit (c :: before) rest

/-- The label is composed and starts with a character of its own, each of its
characters stands for itself, and joiners stand only where they make a
difference. -/
def isProperLabel (label : List Char) : Bool :=
  !label.isEmpty && !label.head?.any (Text.inRanges markRanges ·)
    && (label.all fun c => mapChar? c == some [c]) && Text.composed label == label
    && joinersFit [] label

/-- The label that a written one stands for. -/
def labelOf? (written : List Char) : Option (List Char) :=
  match Text.after? "xn--".toList written with
  | some digits => do
      let label ← Punycode.decode? digits
      if isProperLabel label && !isAscii label && Punycode.encode label == digits then some label
      else none
  | none => if isAscii written || isProperLabel written then some written else none

/-- The ASCII form of a label. -/
def labelToAscii (label : List Char) : List Char :=
  if isAscii label then label else "xn--".toList ++ Punycode.encode label

/-! ## Names -/

/-- A way to bring domain names without any of the refused ASCII characters into
their ASCII form. -/
abbrev ToAscii := (refused : Char → Bool) → (domain : List Char) → Option (List Char)

/-- The ASCII form of a domain name without any of the refused ASCII characters. -/
def domainToAscii? (refused : Char → Bool) (domain : List Char) : Option (List Char) := do
  let mapped ← domain.mapM mapChar?
  let labels ← (Text.splitAt '.' (Text.composed mapped.flatten)).mapM labelOf?
  if labels.any isLeftward && !labels.all keepsDirection then none
  else
    let ascii := ['.'].intercalate (labels.map labelToAscii)
    if ascii.any refused then none else some ascii

/-- The ASCII characters that no domain name in a URL may hold. -/
def isForbiddenInDomain (c : Char) : Bool :=
  c.toNat ≤ 0x20 || c.toNat == 0x7F || "%#/:<>?@[\\]^|".toList.contains c

end StreamLinks.Url
