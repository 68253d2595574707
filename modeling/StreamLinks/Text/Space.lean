/-!
# White space

The white space that separates tokens, surrounds integers and is trimmed from
identifiers is the Unicode property White_Space, all of it and at both ends.
-/

namespace StreamLinks.Text

/-- The 25 characters that have the Unicode property White_Space. -/
def isSpace (c : Char) : Bool :=
  let n := c.toNat
  (0x09 ≤ n && n ≤ 0x0D) || n == 0x20 || n == 0x85 || n == 0xA0 || n == 0x1680
    || (0x2000 ≤ n && n ≤ 0x200A) || n == 0x2028 || n == 0x2029 || n == 0x202F
    || n == 0x205F || n == 0x3000

/-- The text without the characters at its end that satisfy `p`. -/
def dropEndWhile (p : Char → Bool) (text : List Char) : List Char :=
  (text.reverse.dropWhile p).reverse

/-- The text without white space at its two ends. -/
def trim (text : List Char) : List Char :=
  dropEndWhile isSpace (text.dropWhile isSpace)

theorem dropWhile_dropWhile (p : Char → Bool) (text : List Char) :
    (text.dropWhile p).dropWhile p = text.dropWhile p := by
  induction text with
  | nil => rfl
  | cons c rest ih =>
      by_cases hc : p c
      · simp [hc, ih]
      · simp [hc]

/-- Dropping from the end keeps a first character that is not dropped. -/
theorem dropEndWhile_cons {p : Char → Bool} {c : Char} (hc : p c = false)
    (rest : List Char) :
    dropEndWhile p (c :: rest) = c :: dropEndWhile p rest := by
  have hlast :
      (rest.reverse ++ [c]).dropWhile p = rest.reverse.dropWhile p ++ [c] := by
    rw [List.dropWhile_append]
    split
    · next hempty => simp_all
    · rfl
  simp [dropEndWhile, hlast]

/-- Trimmed text stays as it is. -/
theorem trim_trim (text : List Char) : trim (trim text) = trim text := by
  have hstart : (trim text).dropWhile isSpace = trim text := by
    unfold trim
    have hidem := dropWhile_dropWhile isSpace text
    cases hrest : text.dropWhile isSpace with
    | nil => rfl
    | cons c rest =>
        have hc : isSpace c = false := by
          rw [hrest] at hidem
          cases hspace : isSpace c with
          | false => rfl
          | true =>
              have hlength := congrArg List.length hidem
              have hle := (List.dropWhile_sublist isSpace (l := rest)).length_le
              simp [hspace] at hlength
              omega
        rw [dropEndWhile_cons hc]
        simp [hc]
  rw [trim, hstart]
  simp [trim, dropEndWhile, dropWhile_dropWhile]

def trimString (text : String) : String :=
  String.ofList (trim text.toList)

/-- A trimmed string stays as it is. -/
theorem trimString_trimString (text : String) :
    trimString (trimString text) = trimString text := by
  simp [trimString, trim_trim]

/-- A string of white space only is as good as an empty one. -/
def isBlank (text : String) : Bool :=
  text.toList.all isSpace

end StreamLinks.Text
