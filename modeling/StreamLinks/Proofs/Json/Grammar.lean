import StreamLinks.Json.Parser

/-!
# The grammar of JSON

```text
value   := "null" | "true" | "false" | number | string | array | object
array   := "[" blanks "]" | "[" items "]"
items   := blanks value blanks | blanks value blanks "," items
object  := "{" blanks "}" | "{" members "}"
members := member blanks | member blanks "," members
member  := blanks string blanks ":" blanks value
string  := '"' (character | escape)* '"'
number  := ["-"] whole ["." digits] [("e" | "E") ["+" | "-"] digits]
```

The grammar is stated as relations between texts and what they write, without any reader
in mind.  It is that of RFC 8259 within three limits: values stand inside one another up to
some depth, numbers fit double precision, and escaped surrogates come in pairs.
-/

namespace StreamLinks.Json

/-- White space between tokens, or none. -/
def IsBlanks (text : List Char) : Prop :=
  ∀ c ∈ text, isBlank c = true

/-! ## Strings -/

/-- The escapes of a single character: what stands behind the backslash, and what it stands
for. -/
def shortEscapes : List (Char × Char) :=
  [('"', '"'), ('\\', '\\'), ('/', '/'), ('b', '\x08'), ('f', '\x0c'), ('n', '\n'), ('r', '\r'),
    ('t', '\t')]

/-- Four hexadecimal digits. -/
def IsUnit (digits : List Char) (unit : Nat) : Prop :=
  digits.length = 4 ∧ Text.hexNumberFrom? 0 digits = some unit

def IsHighSurrogate (unit : Nat) : Prop :=
  0xD800 ≤ unit ∧ unit < 0xDC00

def IsLowSurrogate (unit : Nat) : Prop :=
  0xDC00 ≤ unit ∧ unit < 0xE000

/-- An escape without its backslash, and the character that it stands for. -/
inductive IsEscape : List Char → Char → Prop
  | short {mark c : Char} (hmark : (mark, c) ∈ shortEscapes) : IsEscape [mark] c
  | unit {digits : List Char} {unit : Nat} (hdigits : IsUnit digits unit)
      (hhigh : ¬ IsHighSurrogate unit) (hlow : ¬ IsLowSurrogate unit) :
      IsEscape ('u' :: digits) (Char.ofNat unit)
  | pair {digits digits' : List Char} {high low : Nat} (hdigits : IsUnit digits high)
      (hdigits' : IsUnit digits' low) (hhigh : IsHighSurrogate high) (hlow : IsLowSurrogate low) :
      IsEscape ('u' :: (digits ++ '\\' :: 'u' :: digits'))
        (Char.ofNat (0x10000 + 0x400 * (high - 0xD800) + (low - 0xDC00)))

/-- What stands between the quotes of a string, and what it writes. -/
inductive IsContent : List Char → List Char → Prop
  | nil : IsContent [] []
  | plain {c : Char} {text content : List Char} (hquote : c ≠ '"') (hbackslash : c ≠ '\\')
      (hcontrol : 0x20 ≤ c.toNat) (hrest : IsContent text content) :
      IsContent (c :: text) (c :: content)
  | escape {escape text content : List Char} {c : Char} (hescape : IsEscape escape c)
      (hrest : IsContent text content) : IsContent ('\\' :: (escape ++ text)) (c :: content)

/-- A string with its quotes. -/
inductive IsString : List Char → String → Prop
  | quoted {text content : List Char} (hcontent : IsContent text content) :
      IsString ('"' :: (text ++ ['"'])) (String.ofList content)

/-! ## Numbers -/

def IsDigits (text : List Char) : Prop :=
  text ≠ [] ∧ ∀ c ∈ text, c.isDigit = true

/-- Digits without a leading zero. -/
def IsWhole (text : List Char) : Prop :=
  IsDigits text ∧ (text.head? = some '0' → text.length = 1)

inductive IsMinus : List Char → Bool → Prop
  | absent : IsMinus [] false
  | present : IsMinus ['-'] true

inductive IsSign : List Char → Bool → Prop
  | plus : IsSign ['+'] false
  | minus {text : List Char} {negative : Bool} (hminus : IsMinus text negative) :
      IsSign text negative

inductive IsFraction : List Char → List Char → Prop
  | absent : IsFraction [] []
  | present {digits : List Char} (hdigits : IsDigits digits) : IsFraction ('.' :: digits) digits

inductive IsExponent : List Char → Int → Prop
  | absent : IsExponent [] 0
  | present {mark : Char} {sign digits : List Char} {negative : Bool}
      (hmark : mark = 'e' ∨ mark = 'E') (hsign : IsSign sign negative)
      (hdigits : IsDigits digits) :
      IsExponent (mark :: (sign ++ digits))
        (if negative then -(Text.natOfDigits digits : Int) else Text.natOfDigits digits)

inductive IsNumber : List Char → Numeral → Prop
  | intro {minus whole point fraction power : List Char} {negative : Bool} {exponent : Int}
      (hminus : IsMinus minus negative) (hwhole : IsWhole whole)
      (hfraction : IsFraction point fraction) (hexponent : IsExponent power exponent) :
      IsNumber (minus ++ (whole ++ (point ++ power))) ⟨negative, whole, fraction, exponent⟩

/-! ## Values -/

/-- The values that are written by a word. -/
def words : List (List Char × Json) :=
  [("null".toList, null), ("true".toList, bool true), ("false".toList, bool false)]

mutual

/-- A value in which arrays and objects stand inside one another up to the depth. -/
inductive IsValue : Nat → List Char → Json → Prop
  | word {depth : Nat} {text : List Char} {value : Json} (hword : (text, value) ∈ words) :
      IsValue depth text value
  | number {depth : Nat} {text : List Char} {numeral : Numeral} (hnumber : IsNumber text numeral)
      (hfits : numeral.fits = true) : IsValue depth text (number (String.ofList text))
  | string {depth : Nat} {text : List Char} {content : String} (hstring : IsString text content) :
      IsValue depth text (string content)
  | emptyArray {depth : Nat} {blanks : List Char} (hblanks : IsBlanks blanks) :
      IsValue (depth + 1) ('[' :: (blanks ++ [']'])) (array [])
  | array {depth : Nat} {text : List Char} {items : List Json} (hitems : IsItems depth text items) :
      IsValue (depth + 1) ('[' :: (text ++ [']'])) (array items)
  | object {depth : Nat} {text : List Char} {members : List (String × Json)}
      (hobject : IsObject depth text members) : IsValue depth text (object members)

/-- An object with its braces. -/
inductive IsObject : Nat → List Char → List (String × Json) → Prop
  | empty {depth : Nat} {blanks : List Char} (hblanks : IsBlanks blanks) :
      IsObject (depth + 1) ('{' :: (blanks ++ ['}'])) []
  | members {depth : Nat} {text : List Char} {members : List (String × Json)}
      (hmembers : IsMembers depth text members) :
      IsObject (depth + 1) ('{' :: (text ++ ['}'])) members

/-- One or more values with commas between them. -/
inductive IsItems : Nat → List Char → List Json → Prop
  | last {depth : Nat} {before text after : List Char} {value : Json} (hbefore : IsBlanks before)
      (hvalue : IsValue depth text value) (hafter : IsBlanks after) :
      IsItems depth (before ++ (text ++ after)) [value]
  | more {depth : Nat} {before text after rest : List Char} {value : Json} {items : List Json}
      (hbefore : IsBlanks before) (hvalue : IsValue depth text value) (hafter : IsBlanks after)
      (hitems : IsItems depth rest items) :
      IsItems depth (before ++ (text ++ (after ++ ',' :: rest))) (value :: items)

/-- A key and a value. -/
inductive IsMember : Nat → List Char → String × Json → Prop
  | intro {depth : Nat} {before quoted behind ahead text : List Char} {key : String} {value : Json}
      (hbefore : IsBlanks before) (hkey : IsString quoted key) (hbehind : IsBlanks behind)
      (hahead : IsBlanks ahead) (hvalue : IsValue depth text value) :
      IsMember depth (before ++ (quoted ++ (behind ++ ':' :: (ahead ++ text)))) (key, value)

/-- One or more members with commas between them. -/
inductive IsMembers : Nat → List Char → List (String × Json) → Prop
  | last {depth : Nat} {text after : List Char} {member : String × Json}
      (hmember : IsMember depth text member) (hafter : IsBlanks after) :
      IsMembers depth (text ++ after) [member]
  | more {depth : Nat} {text after rest : List Char} {member : String × Json}
      {members : List (String × Json)} (hmember : IsMember depth text member)
      (hafter : IsBlanks after) (hmembers : IsMembers depth rest members) :
      IsMembers depth (text ++ (after ++ ',' :: rest)) (member :: members)

end

/-! ## Characters of escapes -/

variable {text : List Char}

/-- A number in hexadecimal is made of digits only. -/
theorem not_mem_of_hexNumberFrom? {high n : Nat} {c : Char} (hc : Text.hexValue? c = none)
    (hdigits : Text.hexNumberFrom? high text = some n) : c ∉ text := by
  induction text generalizing high with
  | nil => simp
  | cons d text ih =>
      obtain ⟨value, hvalue, hrest⟩ := Option.bind_eq_some_iff.mp hdigits
      rw [List.mem_cons, not_or]
      refine ⟨?_, ih hrest⟩
      rintro rfl
      rw [hc] at hvalue
      cases hvalue

/-! ## Characters of numbers -/

/-- The characters of a number besides digits. -/
def numberMarks : List Char :=
  ['+', '-', '.', 'e', 'E']

def IsNumeric (c : Char) : Prop :=
  c.isDigit = true ∨ c ∈ numberMarks

instance : DecidablePred IsNumeric :=
  fun c => inferInstanceAs (Decidable (c.isDigit = true ∨ c ∈ numberMarks))

theorem IsDigits.isNumeric (hdigits : IsDigits text) : ∀ c ∈ text, IsNumeric c :=
  fun c hc => .inl (hdigits.2 c hc)

theorem IsMinus.isNumeric {negative : Bool} (hminus : IsMinus text negative) :
    ∀ c ∈ text, IsNumeric c := by
  cases hminus with
  | absent => simp
  | present => exact List.forall_mem_singleton.mpr (.inr (by decide))

theorem IsSign.isNumeric {negative : Bool} (hsign : IsSign text negative) :
    ∀ c ∈ text, IsNumeric c := by
  cases hsign with
  | plus => exact List.forall_mem_singleton.mpr (.inr (by decide))
  | minus hminus => exact hminus.isNumeric

theorem IsFraction.isNumeric {digits : List Char} (hfraction : IsFraction text digits) :
    ∀ c ∈ text, IsNumeric c := by
  cases hfraction with
  | absent => simp
  | present hdigits =>
      rw [List.forall_mem_cons]
      exact ⟨.inr (by decide), hdigits.isNumeric⟩

theorem IsExponent.isNumeric {exponent : Int} (hexponent : IsExponent text exponent) :
    ∀ c ∈ text, IsNumeric c := by
  cases hexponent with
  | absent => simp
  | present hmark hsign hdigits =>
      rw [List.forall_mem_cons, List.forall_mem_append]
      refine ⟨.inr ?_, hsign.isNumeric, hdigits.isNumeric⟩
      rcases hmark with rfl | rfl <;> decide

theorem IsNumber.isNumeric {numeral : Numeral} (hnumber : IsNumber text numeral) :
    ∀ c ∈ text, IsNumeric c := by
  obtain ⟨hminus, hwhole, hfraction, hexponent⟩ := hnumber
  simp only [List.forall_mem_append]
  exact ⟨hminus.isNumeric, hwhole.1.isNumeric, hfraction.isNumeric, hexponent.isNumeric⟩

end StreamLinks.Json
