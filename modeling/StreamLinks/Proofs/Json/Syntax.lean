import StreamLinks.Proofs.Json.Grammar

/-!
# The syntax of JSON

Which texts are JSON, whatever they stand for.  This is the grammar of RFC 8259 as it is, without
the limits that a reader sets: numbers are of any size, an escape is any four hexadecimal digits,
and arrays stand inside one another as deep as they like.  Only how deep objects stand inside
one another is kept count of.  The texts of the grammar of values are among these.
-/

namespace StreamLinks.Json

/-! ## Strings and numbers -/

/-- An escape without its backslash. -/
inductive IsEscapeText : List Char → Prop
  | short {mark : Char} (hmark : mark ∈ shortEscapes.map Prod.fst) : IsEscapeText [mark]
  | unit {digits : List Char} (hlength : digits.length = 4)
      (hdigits : ∀ c ∈ digits, (Text.hexValue? c).isSome = true) : IsEscapeText ('u' :: digits)

/-- What stands between the quotes of a string. -/
inductive IsContentText : List Char → Prop
  | nil : IsContentText []
  | plain {c : Char} {text : List Char} (hquote : c ≠ '"') (hbackslash : c ≠ '\\')
      (hcontrol : 0x20 ≤ c.toNat) (hrest : IsContentText text) : IsContentText (c :: text)
  | escape {escape text : List Char} (hescape : IsEscapeText escape)
      (hrest : IsContentText text) : IsContentText ('\\' :: (escape ++ text))

/-- A string with its quotes. -/
inductive IsStringText : List Char → Prop
  | quoted {text : List Char} (hcontent : IsContentText text) :
      IsStringText ('"' :: (text ++ ['"']))

def IsNumberText (text : List Char) : Prop :=
  ∃ numeral, IsNumber text numeral

/-! ## Values -/

mutual

/-- A value in which objects stand inside one another up to so many levels. -/
inductive IsValueText : Nat → List Char → Prop
  | word {levels : Nat} {text : List Char} (hword : text ∈ words.map Prod.fst) :
      IsValueText levels text
  | number {levels : Nat} {text : List Char} (hnumber : IsNumberText text) :
      IsValueText levels text
  | string {levels : Nat} {text : List Char} (hstring : IsStringText text) :
      IsValueText levels text
  | emptyArray {levels : Nat} {blanks : List Char} (hblanks : IsBlanks blanks) :
      IsValueText levels ('[' :: (blanks ++ [']']))
  | array {levels : Nat} {text : List Char} (hitems : IsItemsText levels text) :
      IsValueText levels ('[' :: (text ++ [']']))
  | object {levels : Nat} {text : List Char} (hobject : IsObjectText levels text) :
      IsValueText levels text

/-- An object from its opening brace to its closing one. -/
inductive IsObjectText : Nat → List Char → Prop
  | empty {levels : Nat} {blanks : List Char} (hblanks : IsBlanks blanks) :
      IsObjectText (levels + 1) ('{' :: (blanks ++ ['}']))
  | members {levels : Nat} {text : List Char} (hmembers : IsMembersText levels text) :
      IsObjectText (levels + 1) ('{' :: (text ++ ['}']))

/-- One or more values with commas between them. -/
inductive IsItemsText : Nat → List Char → Prop
  | last {levels : Nat} {before text after : List Char} (hbefore : IsBlanks before)
      (hvalue : IsValueText levels text) (hafter : IsBlanks after) :
      IsItemsText levels (before ++ (text ++ after))
  | more {levels : Nat} {before text after rest : List Char} (hbefore : IsBlanks before)
      (hvalue : IsValueText levels text) (hafter : IsBlanks after)
      (hitems : IsItemsText levels rest) :
      IsItemsText levels (before ++ (text ++ (after ++ ',' :: rest)))

/-- A key and a value. -/
inductive IsMemberText : Nat → List Char → Prop
  | intro {levels : Nat} {before quoted behind ahead text : List Char} (hbefore : IsBlanks before)
      (hkey : IsStringText quoted) (hbehind : IsBlanks behind) (hahead : IsBlanks ahead)
      (hvalue : IsValueText levels text) :
      IsMemberText levels (before ++ (quoted ++ (behind ++ ':' :: (ahead ++ text))))

/-- One or more members with commas between them. -/
inductive IsMembersText : Nat → List Char → Prop
  | last {levels : Nat} {text after : List Char} (hmember : IsMemberText levels text)
      (hafter : IsBlanks after) : IsMembersText levels (text ++ after)
  | more {levels : Nat} {text after rest : List Char} (hmember : IsMemberText levels text)
      (hafter : IsBlanks after) (hmembers : IsMembersText levels rest) :
      IsMembersText levels (text ++ (after ++ ',' :: rest))

end

/-! ## The texts of values -/

variable {text : List Char} {c : Char}

theorem isEscapeText_of_isUnit {digits : List Char} {unit : Nat} (hunit : IsUnit digits unit) :
    IsEscapeText ('u' :: digits) := by
  refine .unit hunit.1 ?_
  intro c hmem
  rw [Option.isSome_iff_ne_none]
  exact fun hnone => not_mem_of_hexNumberFrom? hnone hunit.2 hmem

theorem isContentText_of_isEscape {escape : List Char} (hescape : IsEscape escape c)
    (hrest : IsContentText text) : IsContentText ('\\' :: (escape ++ text)) := by
  cases hescape with
  | short hmark => exact .escape (.short (List.mem_map.mpr ⟨_, hmark, rfl⟩)) hrest
  | unit hdigits hhigh hlow => exact .escape (isEscapeText_of_isUnit hdigits) hrest
  | @pair digits digits' _ _ hdigits hdigits' hhigh hlow =>
      -- A pair of surrogates is two escapes.
      have hsplit : 'u' :: (digits ++ '\\' :: 'u' :: digits') ++ text =
          'u' :: digits ++ '\\' :: ('u' :: digits' ++ text) := by simp
      rw [hsplit]
      exact .escape (isEscapeText_of_isUnit hdigits)
        (.escape (isEscapeText_of_isUnit hdigits') hrest)

theorem isContentText_of_isContent {content : List Char} (hcontent : IsContent text content) :
    IsContentText text := by
  induction hcontent with
  | nil => exact .nil
  | plain hquote hbackslash hcontrol hrest ih => exact .plain hquote hbackslash hcontrol ih
  | escape hescape hrest ih => exact isContentText_of_isEscape hescape ih

theorem isStringText_of_isString {content : String} (hstring : IsString text content) :
    IsStringText text := by
  cases hstring with
  | quoted hcontent => exact .quoted (isContentText_of_isContent hcontent)

mutual

theorem isValueText_of_isValue : ∀ {depth levels : Nat} {text : List Char} {value : Json},
    IsValue depth text value → depth ≤ levels → IsValueText levels text
  | _, _, _, _, .word hword, _ => .word (List.mem_map.mpr ⟨_, hword, rfl⟩)
  | _, _, _, _, .number hnumber _, _ => .number ⟨_, hnumber⟩
  | _, _, _, _, .string hstring, _ => .string (isStringText_of_isString hstring)
  | _, _, _, _, .emptyArray hblanks, _ => .emptyArray hblanks
  | _, _, _, _, .array hitems, hle =>
      .array (isItemsText_of_isItems hitems (Nat.le_of_succ_le hle))
  | _, _, _, _, .object hobject, hle => .object (isObjectText_of_isObject hobject hle)

theorem isObjectText_of_isObject : ∀ {depth levels : Nat} {text : List Char}
    {members : List (String × Json)},
    IsObject depth text members → depth ≤ levels → IsObjectText levels text
  | _, 0, _, _, .empty _, hle => absurd hle (Nat.not_succ_le_zero _)
  | _, 0, _, _, .members _, hle => absurd hle (Nat.not_succ_le_zero _)
  | _, _ + 1, _, _, .empty hblanks, _ => .empty hblanks
  | _, _ + 1, _, _, .members hmembers, hle =>
      .members (isMembersText_of_isMembers hmembers (Nat.le_of_succ_le_succ hle))

theorem isItemsText_of_isItems : ∀ {depth levels : Nat} {text : List Char} {items : List Json},
    IsItems depth text items → depth ≤ levels → IsItemsText levels text
  | _, _, _, _, .last hbefore hvalue hafter, hle =>
      .last hbefore (isValueText_of_isValue hvalue hle) hafter
  | _, _, _, _, .more hbefore hvalue hafter hitems, hle =>
      .more hbefore (isValueText_of_isValue hvalue hle) hafter (isItemsText_of_isItems hitems hle)

theorem isMemberText_of_isMember : ∀ {depth levels : Nat} {text : List Char}
    {member : String × Json},
    IsMember depth text member → depth ≤ levels → IsMemberText levels text
  | _, _, _, _, .intro hbefore hkey hbehind hahead hvalue, hle =>
      .intro hbefore (isStringText_of_isString hkey) hbehind hahead
        (isValueText_of_isValue hvalue hle)

theorem isMembersText_of_isMembers : ∀ {depth levels : Nat} {text : List Char}
    {members : List (String × Json)},
    IsMembers depth text members → depth ≤ levels → IsMembersText levels text
  | _, _, _, _, .last hmember hafter, hle => .last (isMemberText_of_isMember hmember hle) hafter
  | _, _, _, _, .more hmember hafter hmembers, hle =>
      .more (isMemberText_of_isMember hmember hle) hafter (isMembersText_of_isMembers hmembers hle)

end

end StreamLinks.Json
