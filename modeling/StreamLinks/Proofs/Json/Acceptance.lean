import Mathlib.Data.List.TakeWhile
import StreamLinks.Proofs.Json.Reading
import StreamLinks.Proofs.Text.Runs

/-!
# All JSON is read

What writes a value by the grammar is read as that value, when it stands in front of a
text that no number goes on with.  A text is read exactly if it writes a value with blanks
around it.
-/

namespace StreamLinks.Json

open Text (IsRun Reader)

variable {depth : Nat} {text rest : List Char}

/-- No number goes on with the text. -/
def Stops (text : List Char) : Prop :=
  ∀ c, text.head? = some c → ¬ IsNumeric c

theorem not_isNumeric_of_isBlank {c : Char} (hblank : isBlank c = true) : ¬ IsNumeric c := by
  simp only [isBlank, Bool.or_eq_true, beq_iff_eq] at hblank
  rcases hblank with ((rfl | rfl) | rfl) | rfl <;> decide

theorem IsBlanks.stops {blanks : List Char} (hblanks : IsBlanks blanks) (hrest : Stops rest) :
    Stops (blanks ++ rest) := by
  cases blanks with
  | nil => exact hrest
  | cons c blanks =>
      rintro _ ⟨rfl⟩
      exact not_isNumeric_of_isBlank (hblanks c List.mem_cons_self)

theorem stops_cons {c : Char} (hc : ¬ IsNumeric c) : Stops (c :: rest) := by
  rintro _ ⟨rfl⟩
  exact hc

theorem Stops.isDigit (hstops : Stops text) : ∀ c, text.head? = some c → c.isDigit = false := by
  intro c hc
  rw [← Bool.not_eq_true]
  exact fun hdigit => hstops c hc (.inl hdigit)

theorem skipBlank_append {blanks : List Char} (hblanks : IsBlanks blanks)
    (htext : ∀ c, text.head? = some c → isBlank c = false) : skipBlank (blanks ++ text) = text :=
  (IsRun.mk hblanks htext).dropWhile_eq

/-! ## Strings -/

theorem hexNumber?_of_isUnit {digits : List Char} {unit : Nat} (hdigits : IsUnit digits unit)
    (rest : List Char) : Text.hexNumber? 4 (digits ++ rest) = some unit := by
  obtain ⟨hlength, hvalue⟩ := hdigits
  unfold Text.hexNumber?
  rw [if_neg (by rw [List.length_append]; omega), ← hlength, List.take_left, hvalue]

theorem escape?_of_isEscape {escape : List Char} {c : Char} (hescape : IsEscape escape c)
    (rest : List Char) : escape? (escape ++ rest) = some (c, escape.length) := by
  cases hescape with
  | short hmark =>
      have hshort : ∀ entry ∈ shortEscapes,
          escape? (entry.1 :: rest) = some (entry.2, 1) := by
        simp [shortEscapes, escape?]
      exact hshort _ hmark
  | unit hdigits hhigh hlow =>
      rename_i digits unit
      unfold IsHighSurrogate at hhigh
      unfold IsLowSurrogate at hlow
      have hunit := hexNumber?_of_isUnit hdigits rest
      have hlength : ('u' :: digits).length = 5 := by simp [hdigits.1]
      have hescape : escape? ('u' :: (digits ++ rest)) = some (Char.ofNat unit, 5) := by
        simp only [escape?, hunit, Option.bind_eq_bind, Option.bind_some]
        rw [if_neg hhigh, if_neg hlow]
      rw [List.cons_append, hescape, hlength]
  | pair hdigits hdigits' hhigh hlow =>
      rename_i digits digits' high low
      unfold IsHighSurrogate at hhigh
      unfold IsLowSurrogate at hlow
      have hunit := hexNumber?_of_isUnit hdigits ('\\' :: 'u' :: (digits' ++ rest))
      have hunit' := hexNumber?_of_isUnit hdigits' rest
      have hdrop : (digits ++ '\\' :: 'u' :: (digits' ++ rest)).drop 4 =
          '\\' :: 'u' :: (digits' ++ rest) := by
        rw [← hdigits.1, List.drop_left]
      have hescape : escape? ('u' :: (digits ++ '\\' :: 'u' :: (digits' ++ rest))) =
          some (Char.ofNat (0x10000 + 0x400 * (high - 0xD800) + (low - 0xDC00)), 11) := by
        simp only [escape?, hunit, Option.bind_eq_bind, Option.bind_some]
        rw [if_pos hhigh, hdrop]
        simp only [hunit', Option.bind_some]
        rw [if_pos hlow]
      have hlength : ('u' :: (digits ++ '\\' :: 'u' :: digits')).length = 11 := by
        simp [hdigits.1, hdigits'.1]
      rw [hlength, ← hescape]
      simp

theorem readContent_skip (skipped : List Char) :
    readContent skipped.length (skipped ++ text) = readContent 0 text := by
  induction skipped with
  | nil => rfl
  | cons c skipped ih => exact ih

theorem readContent_of_isContent {content : List Char} (hcontent : IsContent text content)
    (rest : List Char) : readContent 0 (text ++ '"' :: rest) = some (content, rest) := by
  induction hcontent with
  | nil => rfl
  | plain hquote hbackslash hcontrol hrest ih =>
      rw [List.cons_append, readContent, if_neg hquote, if_neg hbackslash,
        if_neg (Nat.not_lt.mpr hcontrol), ih]
      rfl
  | escape hescape hrest ih =>
      rw [List.cons_append, List.append_assoc, readContent, if_neg (by decide), if_pos rfl,
        escape?_of_isEscape hescape]
      simp only [Option.bind_eq_bind, Option.bind_some]
      rw [readContent_skip, ih]
      rfl

theorem readString_of_isString {content : String} (hstring : IsString text content)
    (rest : List Char) : readString (text ++ rest) = some (content, rest) := by
  obtain ⟨hcontent⟩ := hstring
  rename_i text content
  have hread := readContent_of_isContent hcontent rest
  simp [readString, hread]

/-! ## Numbers -/

theorem IsDigits.head?_append {digits : List Char} (hdigits : IsDigits digits) :
    ∀ c, (digits ++ rest).head? = some c → c.isDigit = true := by
  intro c hc
  rw [List.head?_append_of_ne_nil _ hdigits.1] at hc
  exact hdigits.2 c (List.mem_of_mem_head? hc)

theorem readDigits?_of_isDigits {digits : List Char} (hdigits : IsDigits digits)
    (hrest : ∀ c, rest.head? = some c → c.isDigit = false) :
    readDigits? (digits ++ rest) = some (digits, rest) := by
  obtain ⟨hne, hall⟩ := hdigits
  have hrun : IsRun Char.isDigit digits rest := ⟨hall, hrest⟩
  unfold readDigits?
  rw [hrun.takeWhile_eq, hrun.dropWhile_eq]
  split
  next => contradiction
  next => rfl

theorem readMinus_of_isMinus {minus : List Char} {negative : Bool}
    (hminus : IsMinus minus negative) (hrest : rest.head? ≠ some '-') :
    readMinus (minus ++ rest) = (negative, rest) := by
  cases hminus with
  | absent =>
      rw [List.nil_append]
      unfold readMinus
      split
      next => exact absurd rfl hrest
      next => rfl
  | present => rfl

theorem readFraction?_of_isFraction {point fraction : List Char}
    (hfraction : IsFraction point fraction)
    (hrest : ∀ c, rest.head? = some c → c.isDigit = false ∧ c ≠ '.') :
    readFraction? (point ++ rest) = some (fraction, rest) := by
  cases hfraction with
  | absent =>
      rw [List.nil_append]
      unfold readFraction?
      split
      next => exact absurd rfl (hrest _ rfl).2
      next => rfl
  | present hdigits => exact readDigits?_of_isDigits hdigits fun c hc => (hrest c hc).1

theorem readExponent?_of_mark {mark : Char} {sign unsigned : List Char} {negative : Bool}
    (hmark : mark = 'e' ∨ mark = 'E') (hsign : IsSign sign negative)
    (hunsigned : ∀ c, unsigned.head? = some c → c.isDigit = true) :
    readExponent? (mark :: (sign ++ unsigned)) =
      (readDigits? unsigned).map fun (digits, rest) =>
        (if negative then -(Text.natOfDigits digits : Int) else Text.natOfDigits digits, rest) := by
  unfold readExponent?
  dsimp only
  rw [if_pos hmark]
  cases hsign with
  | plus => rfl
  | minus hminus =>
      have hhead : unsigned.head? ≠ some '-' := fun h => absurd (hunsigned '-' h) (by decide)
      split
      next hplus =>
        cases hminus with
        | absent =>
            rw [List.nil_append] at hplus
            exact absurd (hunsigned '+' (by rw [hplus]; rfl)) (by decide)
        | present => cases hplus
      next => rw [readMinus_of_isMinus hminus hhead]

theorem readExponent?_of_isExponent {power : List Char} {exponent : Int}
    (hexponent : IsExponent power exponent) (hrest : Stops rest) :
    readExponent? (power ++ rest) = some (exponent, rest) := by
  cases hexponent with
  | absent =>
      rw [List.nil_append]
      unfold readExponent?
      split
      next c rest =>
        have hmark : ¬ (c = 'e' ∨ c = 'E') := by
          rintro (rfl | rfl)
          · exact hrest 'e' rfl (by decide)
          · exact hrest 'E' rfl (by decide)
        rw [if_neg hmark]
      next => rfl
  | present hmark hsign hdigits =>
      rename_i mark sign digits negative
      have hread : readDigits? (digits ++ rest) = some (digits, rest) :=
        readDigits?_of_isDigits hdigits hrest.isDigit
      rw [List.cons_append, List.append_assoc, readExponent?_of_mark hmark hsign
        hdigits.head?_append, hread]
      rfl

theorem IsExponent.head? {power : List Char} {exponent : Int}
    (hexponent : IsExponent power exponent) (hrest : Stops rest) :
    ∀ c, (power ++ rest).head? = some c → c.isDigit = false ∧ c ≠ '.' := by
  intro c hc
  cases hexponent with
  | absent =>
      refine ⟨hrest.isDigit c hc, ?_⟩
      rintro rfl
      exact hrest '.' hc (by decide)
  | present hmark hsign hdigits =>
      cases hc
      rcases hmark with rfl | rfl <;> decide

theorem IsFraction.head? {point fraction : List Char} (hfraction : IsFraction point fraction)
    (hrest : ∀ c, rest.head? = some c → c.isDigit = false ∧ c ≠ '.') :
    ∀ c, (point ++ rest).head? = some c → c.isDigit = false := by
  intro c hc
  cases hfraction with
  | absent => exact (hrest c hc).1
  | present hdigits =>
      cases hc
      decide

theorem readNumeral?_of_isNumber {numeral : Numeral} (hnumber : IsNumber text numeral)
    (hrest : Stops rest) : readNumeral? (text ++ rest) = some (numeral, rest) := by
  obtain ⟨hminus, hwhole, hfraction, hexponent⟩ := hnumber
  rename_i minus whole point fraction power negative exponent
  have hafterFraction := hexponent.head? hrest
  have hafterWhole := hfraction.head? hafterFraction
  have hunsigned : (whole ++ (point ++ (power ++ rest))).head? ≠ some '-' :=
    fun hhead => absurd (hwhole.1.head?_append '-' hhead) (by decide)
  have hzero : ¬ (whole.head? = some '0' ∧ whole.length ≠ 1) := by
    rintro ⟨hhead, hlength⟩
    exact hlength (hwhole.2 hhead)
  simp only [List.append_assoc]
  unfold readNumeral?
  rw [readMinus_of_isMinus hminus hunsigned]
  simp only [readDigits?_of_isDigits hwhole.1 hafterWhole, Option.bind_eq_bind, Option.bind_some]
  rw [if_neg hzero]
  simp only [readFraction?_of_isFraction hfraction hafterFraction,
    readExponent?_of_isExponent hexponent hrest, Option.bind_some]
  rfl

theorem IsNumber.exists_cons {numeral : Numeral} (hnumber : IsNumber text numeral) :
    ∃ c more, text = c :: more ∧ IsNumeric c := by
  have hne : text ≠ [] := by
    obtain ⟨-, ⟨⟨hne, -⟩, -⟩, -, -⟩ := hnumber
    simp [hne]
  obtain ⟨c, more, rfl⟩ := List.exists_cons_of_ne_nil hne
  exact ⟨c, more, rfl, hnumber.isNumeric c List.mem_cons_self⟩

/-! ## Scalars -/

theorem mem_words {value : Json} : (text, value) ∈ words ↔
    (text = "null".toList ∧ value = null) ∨ (text = "true".toList ∧ value = bool true) ∨
      (text = "false".toList ∧ value = bool false) := by
  simp only [words, List.mem_cons, List.not_mem_nil, or_false, Prod.mk.injEq]

theorem readScalar_of_word {value : Json} (hword : (text, value) ∈ words) (rest : List Char) :
    readScalar (text ++ rest) = some (value, rest) := by
  rcases mem_words.mp hword with ⟨rfl, rfl⟩ | ⟨rfl, rfl⟩ | ⟨rfl, rfl⟩ <;> rfl

theorem readScalar_of_number {numeral : Numeral} (hnumber : IsNumber text numeral)
    (hfits : numeral.fits = true) (hrest : Stops rest) :
    readScalar (text ++ rest) = some (number (String.ofList text), rest) := by
  have hread : readNumeral? (text ++ rest) = some (numeral, rest) :=
    readNumeral?_of_isNumber hnumber hrest
  obtain ⟨c, more, rfl, hnumeric⟩ := hnumber.exists_cons
  unfold readScalar
  split
  next hstart => cases hstart; exact absurd hnumeric (by decide)
  next hstart => cases hstart; exact absurd hnumeric (by decide)
  next hstart => cases hstart; exact absurd hnumeric (by decide)
  next hstart => cases hstart; exact absurd hnumeric (by decide)
  next =>
    simp only [hread, Option.bind_eq_bind, Option.bind_some]
    rw [if_pos hfits, List.length_append, Nat.add_sub_cancel, List.take_left]
    rfl

theorem readScalar_of_string {content : String} (hstring : IsString text content)
    (rest : List Char) : readScalar (text ++ rest) = some (string content, rest) := by
  have hread : readString (text ++ rest) = some (content, rest) :=
    readString_of_isString hstring rest
  cases hstring
  exact congrArg (Option.map _) hread

theorem readValue_eq_readScalar (depth : Nat) {c : Char} (hbracket : c ≠ '[') (hbrace : c ≠ '{') :
    readValue depth (c :: text) = readScalar (c :: text) := by
  cases depth
  all_goals
    unfold readValue
    split
    next hstart => exact absurd (List.cons.inj hstart).1 hbracket
    next hstart => exact absurd (List.cons.inj hstart).1 hbrace
    next => rfl

theorem readValue_of_word {value : Json} (depth : Nat) (hword : (text, value) ∈ words)
    (rest : List Char) : readValue depth (text ++ rest) = some (value, rest) := by
  rw [← readScalar_of_word hword rest]
  rcases mem_words.mp hword with ⟨rfl, -⟩ | ⟨rfl, -⟩ | ⟨rfl, -⟩
  all_goals exact readValue_eq_readScalar depth (by decide) (by decide)

theorem readValue_of_number {numeral : Numeral} (depth : Nat) (hnumber : IsNumber text numeral)
    (hfits : numeral.fits = true) (hrest : Stops rest) :
    readValue depth (text ++ rest) = some (number (String.ofList text), rest) := by
  rw [← readScalar_of_number hnumber hfits hrest]
  obtain ⟨c, more, rfl, hnumeric⟩ := hnumber.exists_cons
  apply readValue_eq_readScalar
  · rintro rfl
    exact absurd hnumeric (by decide)
  · rintro rfl
    exact absurd hnumeric (by decide)

theorem IsString.exists_cons {content : String} (hstring : IsString text content) :
    ∃ more, text = '"' :: more := by
  cases hstring
  exact ⟨_, rfl⟩

theorem readValue_of_string {content : String} (depth : Nat) (hstring : IsString text content)
    (rest : List Char) : readValue depth (text ++ rest) = some (string content, rest) := by
  rw [← readScalar_of_string hstring rest]
  obtain ⟨more, rfl⟩ := hstring.exists_cons
  exact readValue_eq_readScalar depth (by decide) (by decide)

/-! ## Arrays and objects -/

theorem IsValue.exists_cons {value : Json} (hvalue : IsValue depth text value) :
    ∃ c more, text = c :: more ∧ isBlank c = false ∧ c ≠ ']' := by
  cases hvalue with
  | word hword =>
      rcases mem_words.mp hword with ⟨rfl, -⟩ | ⟨rfl, -⟩ | ⟨rfl, -⟩
      all_goals exact ⟨_, _, rfl, by decide, by decide⟩
  | number hnumber hfits =>
      obtain ⟨c, more, rfl, hnumeric⟩ := hnumber.exists_cons
      refine ⟨c, more, rfl, ?_, ?_⟩
      · rw [← Bool.not_eq_true]
        exact fun hblank => not_isNumeric_of_isBlank hblank hnumeric
      · rintro rfl
        exact absurd hnumeric (by decide)
  | string hstring =>
      obtain ⟨more, rfl⟩ := hstring.exists_cons
      exact ⟨'"', more, rfl, by decide, by decide⟩
  | emptyArray hblanks => exact ⟨'[', _, rfl, by decide, by decide⟩
  | array hitems => exact ⟨'[', _, rfl, by decide, by decide⟩
  | object hobject =>
      cases hobject
      all_goals exact ⟨'{', _, rfl, by decide, by decide⟩

/-- The reader makes the value of the text, wherever no number goes on behind it. -/
def Accepts {α : Type} (reader : Reader α) (text : List Char) (a : α) : Prop :=
  ∀ rest, Stops rest → reader (text ++ rest) = some (a, rest)

section

variable {reader : Reader Json} {value : Json} {before behind after ahead tail : List Char}

/-- A value is read behind blanks. -/
theorem read_skipBlank (hvalue : IsValue depth text value) (hread : Accepts reader text value)
    (hbefore : IsBlanks before) (hrest : Stops rest) :
    reader (skipBlank (before ++ (text ++ rest))) = some (value, rest) := by
  obtain ⟨c, more, rfl, hc, -⟩ := hvalue.exists_cons
  rw [skipBlank_append hbefore (by rintro _ ⟨rfl⟩; exact hc)]
  exact hread rest hrest

theorem skipBlank_cons {c : Char} (hblanks : IsBlanks before) (hc : isBlank c = false)
    (rest : List Char) : skipBlank (before ++ c :: rest) = c :: rest :=
  skipBlank_append hblanks (by rintro _ ⟨rfl⟩; exact hc)

theorem readItems_last {count : Nat} (hbefore : IsBlanks before)
    (hvalue : IsValue depth text value) (hread : Accepts reader text value)
    (hafter : IsBlanks after) (rest : List Char) :
    readItems reader (count + 1) (before ++ (text ++ after) ++ ']' :: rest) =
      some ([value], rest) := by
  have hfirst := read_skipBlank hvalue hread hbefore
    (hafter.stops (stops_cons (by decide) : Stops (']' :: rest)))
  have hclose := skipBlank_cons hafter (by decide : isBlank ']' = false) rest
  simp only [List.append_assoc]
  rw [readItems, hfirst]
  simp only [Option.bind_eq_bind, Option.bind_some, hclose]

theorem readItems_more {count : Nat} {items : List Json} (hbefore : IsBlanks before)
    (hvalue : IsValue depth text value) (hread : Accepts reader text value)
    (hafter : IsBlanks after)
    (hitems : readItems reader count (tail ++ ']' :: rest) = some (items, rest)) :
    readItems reader (count + 1) (before ++ (text ++ (after ++ ',' :: tail)) ++ ']' :: rest) =
      some (value :: items, rest) := by
  have hfirst := read_skipBlank hvalue hread hbefore
    (hafter.stops (stops_cons (by decide) : Stops (',' :: (tail ++ ']' :: rest))))
  have hcomma := skipBlank_cons hafter (by decide : isBlank ',' = false) (tail ++ ']' :: rest)
  simp only [List.append_assoc, List.cons_append]
  rw [readItems, hfirst]
  simp only [Option.bind_eq_bind, Option.bind_some, hcomma, hitems]
  rfl

theorem readMember_accepts {quoted : List Char} {key : String} (hbefore : IsBlanks before)
    (hkey : IsString quoted key) (hbehind : IsBlanks behind) (hahead : IsBlanks ahead)
    (hvalue : IsValue depth text value) (hread : Accepts reader text value) :
    Accepts (readMember reader) (before ++ (quoted ++ (behind ++ ':' :: (ahead ++ text))))
      (key, value) := by
  intro rest hrest
  have hskip (tail : List Char) : skipBlank (before ++ (quoted ++ tail)) = quoted ++ tail := by
    obtain ⟨more, rfl⟩ := hkey.exists_cons
    exact skipBlank_cons hbefore (by decide) _
  have hname := readString_of_isString hkey (behind ++ ':' :: (ahead ++ (text ++ rest)))
  have hcolon : Text.after? [':'] (skipBlank (behind ++ ':' :: (ahead ++ (text ++ rest)))) =
      some (ahead ++ (text ++ rest)) := by
    rw [skipBlank_cons hbehind (by decide) _, Text.after?_eq_some]
    rfl
  have hlast := read_skipBlank hvalue hread hahead hrest
  simp only [List.append_assoc, List.cons_append]
  rw [readMember, hskip]
  simp only [hname, hcolon, hlast, Option.bind_eq_bind, Option.bind_some]
  rfl

theorem readMembers_last {count : Nat} {member : String × Json}
    (hread : Accepts (readMember reader) text member) (hafter : IsBlanks after)
    (rest : List Char) :
    readMembers reader (count + 1) (text ++ after ++ '}' :: rest) = some ([member], rest) := by
  have hfirst := hread (after ++ '}' :: rest) (hafter.stops (stops_cons (by decide)))
  have hclose := skipBlank_cons hafter (by decide : isBlank '}' = false) rest
  rw [List.append_assoc, readMembers, hfirst]
  simp only [Option.bind_eq_bind, Option.bind_some, hclose]

theorem readMembers_more {count : Nat} {member : String × Json} {members : List (String × Json)}
    (hread : Accepts (readMember reader) text member) (hafter : IsBlanks after)
    (hmembers : readMembers reader count (tail ++ '}' :: rest) = some (members, rest)) :
    readMembers reader (count + 1) (text ++ (after ++ ',' :: tail) ++ '}' :: rest) =
      some (member :: members, rest) := by
  have hfirst := hread (after ++ ',' :: (tail ++ '}' :: rest))
    (hafter.stops (stops_cons (by decide)))
  have hcomma := skipBlank_cons hafter (by decide : isBlank ',' = false) (tail ++ '}' :: rest)
  simp only [List.append_assoc, List.cons_append]
  rw [readMembers, hfirst]
  simp only [Option.bind_eq_bind, Option.bind_some, hcomma, hmembers]
  rfl

end

theorem IsItems.exists_front {items : List Json} (hitems : IsItems depth text items) :
    ∃ before c more, text = before ++ c :: more ∧ IsBlanks before ∧ isBlank c = false ∧
      c ≠ ']' := by
  cases hitems with
  | last hbefore hvalue hafter =>
      obtain ⟨c, more, rfl, hc⟩ := hvalue.exists_cons
      exact ⟨_, c, _, rfl, hbefore, hc⟩
  | more hbefore hvalue hafter hitems =>
      obtain ⟨c, more, rfl, hc⟩ := hvalue.exists_cons
      exact ⟨_, c, _, rfl, hbefore, hc⟩

theorem IsMember.exists_front {member : String × Json} (hmember : IsMember depth text member) :
    ∃ before more, text = before ++ '"' :: more ∧ IsBlanks before := by
  obtain ⟨hbefore, hkey, hbehind, hahead, hvalue⟩ := hmember
  obtain ⟨more, rfl⟩ := hkey.exists_cons
  exact ⟨_, _, rfl, hbefore⟩

theorem IsMembers.exists_front {members : List (String × Json)}
    (hmembers : IsMembers depth text members) :
    ∃ before more, text = before ++ '"' :: more ∧ IsBlanks before := by
  cases hmembers with
  | last hmember hafter =>
      obtain ⟨before, more, rfl, hbefore⟩ := hmember.exists_front
      exact ⟨before, _, List.append_assoc _ _ _, hbefore⟩
  | more hmember hafter hmembers =>
      obtain ⟨before, more, rfl, hbefore⟩ := hmember.exists_front
      exact ⟨before, _, List.append_assoc _ _ _, hbefore⟩

theorem IsItems.length_pos {items : List Json} (hitems : IsItems depth text items) :
    0 < text.length := by
  obtain ⟨before, c, more, rfl, -⟩ := hitems.exists_front
  exact List.length_pos_of_mem (List.mem_append_right before List.mem_cons_self)

theorem IsMembers.length_pos {members : List (String × Json)}
    (hmembers : IsMembers depth text members) : 0 < text.length := by
  obtain ⟨before, more, rfl, -⟩ := hmembers.exists_front
  exact List.length_pos_of_mem (List.mem_append_right before List.mem_cons_self)

theorem readValue_array {items : List Json} (hitems : IsItems depth text items)
    (hread : readItems (readValue depth) (text ++ ']' :: rest).length (text ++ ']' :: rest) =
      some (items, rest)) :
    readValue (depth + 1) ('[' :: (text ++ ']' :: rest)) = some (array items, rest) := by
  obtain ⟨before, c, more, rfl, hbefore, hc, hopen⟩ := hitems.exists_front
  have hskip : skipBlank (before ++ c :: more ++ ']' :: rest) = c :: (more ++ ']' :: rest) := by
    rw [List.append_assoc]
    exact skipBlank_cons hbefore hc _
  rw [readValue]
  split
  next hclose =>
    rw [hskip] at hclose
    exact absurd (List.cons.inj hclose).1 hopen
  next => rw [hread]; rfl

theorem readValue_object {members : List (String × Json)} (hmembers : IsMembers depth text members)
    (hread : readMembers (readValue depth) (text ++ '}' :: rest).length (text ++ '}' :: rest) =
      some (members, rest)) :
    readValue (depth + 1) ('{' :: (text ++ '}' :: rest)) = some (object members, rest) := by
  obtain ⟨before, more, rfl, hbefore⟩ := hmembers.exists_front
  have hskip : skipBlank (before ++ '"' :: more ++ '}' :: rest) = '"' :: (more ++ '}' :: rest) := by
    rw [List.append_assoc]
    exact skipBlank_cons hbefore (by decide) _
  unfold readValue
  simp only [hskip, hread]
  rfl

mutual

theorem readValue_of_isValue : ∀ {depth : Nat} {text : List Char} {value : Json},
    IsValue depth text value → Accepts (readValue depth) text value
  | depth, _, _, .word hword => fun rest _ => readValue_of_word depth hword rest
  | depth, _, _, .number hnumber hfits => fun _ hrest =>
      readValue_of_number depth hnumber hfits hrest
  | depth, _, _, .string hstring => fun rest _ => readValue_of_string depth hstring rest
  | _, _, _, .emptyArray hblanks => by
      intro rest _
      have hclose := skipBlank_cons hblanks (by decide : isBlank ']' = false) rest
      simp only [List.cons_append, List.append_assoc, List.nil_append, readValue, hclose]
  | _, _, _, .array hitems => by
      intro rest _
      simp only [List.cons_append, List.append_assoc]
      refine readValue_array hitems ?_
      apply readItems_of_isItems hitems
      simp
  | _, _, _, .object hobject => readValue_of_isObject hobject

theorem readValue_of_isObject : ∀ {depth : Nat} {text : List Char}
    {members : List (String × Json)}, IsObject depth text members →
      Accepts (readValue depth) text (object members)
  | _, _, _, .empty hblanks => by
      intro rest _
      have hclose := skipBlank_cons hblanks (by decide : isBlank '}' = false) rest
      simp only [List.cons_append, List.append_assoc, List.nil_append, readValue, hclose]
  | _, _, _, .members hmembers => by
      intro rest _
      simp only [List.cons_append, List.append_assoc]
      refine readValue_object hmembers ?_
      apply readMembers_of_isMembers hmembers
      simp

theorem readItems_of_isItems : ∀ {depth : Nat} {text : List Char} {items : List Json},
    IsItems depth text items → ∀ rest count, text.length ≤ count →
      readItems (readValue depth) count (text ++ ']' :: rest) = some (items, rest)
  | _, _, _, .last hbefore hvalue hafter, rest, count, hcount => by
      have hpos := (IsItems.last hbefore hvalue hafter).length_pos
      obtain ⟨count, rfl⟩ := Nat.exists_eq_add_one.mpr (hpos.trans_le hcount)
      exact readItems_last hbefore hvalue (readValue_of_isValue hvalue) hafter rest
  | _, _, _, .more hbefore hvalue hafter hitems, rest, count, hcount => by
      have hpos := (IsItems.more hbefore hvalue hafter hitems).length_pos
      obtain ⟨count, rfl⟩ := Nat.exists_eq_add_one.mpr (hpos.trans_le hcount)
      refine readItems_more hbefore hvalue (readValue_of_isValue hvalue) hafter ?_
      apply readItems_of_isItems hitems
      simp only [List.length_append, List.length_cons] at hcount
      omega

theorem readMember_of_isMember : ∀ {depth : Nat} {text : List Char} {member : String × Json},
    IsMember depth text member → Accepts (readMember (readValue depth)) text member
  | _, _, _, .intro hbefore hkey hbehind hahead hvalue =>
      readMember_accepts hbefore hkey hbehind hahead hvalue (readValue_of_isValue hvalue)

theorem readMembers_of_isMembers : ∀ {depth : Nat} {text : List Char}
    {members : List (String × Json)}, IsMembers depth text members → ∀ rest count,
      text.length ≤ count →
        readMembers (readValue depth) count (text ++ '}' :: rest) = some (members, rest)
  | _, _, _, .last hmember hafter, rest, count, hcount => by
      have hpos := (IsMembers.last hmember hafter).length_pos
      obtain ⟨count, rfl⟩ := Nat.exists_eq_add_one.mpr (hpos.trans_le hcount)
      exact readMembers_last (readMember_of_isMember hmember) hafter rest
  | _, _, _, .more hmember hafter hmembers, rest, count, hcount => by
      have hpos := (IsMembers.more hmember hafter hmembers).length_pos
      obtain ⟨count, rfl⟩ := Nat.exists_eq_add_one.mpr (hpos.trans_le hcount)
      refine readMembers_more (readMember_of_isMember hmember) hafter ?_
      apply readMembers_of_isMembers hmembers
      simp only [List.length_append, List.length_cons] at hcount
      omega

end

/-! ## Whole texts -/

theorem skipBlank_eq_nil : skipBlank text = [] ↔ IsBlanks text := by
  unfold skipBlank IsBlanks
  rw [List.dropWhile_eq_nil_iff]

/-- A text is read exactly if it writes a value with blanks around it. -/
theorem parse?_eq_some {value : Json} : parse? text = some value ↔
    ∃ before taken after, text = before ++ (taken ++ after) ∧ IsBlanks before ∧
      IsValue maxDepth taken value ∧ IsBlanks after := by
  unfold parse?
  constructor
  · intro hparse
    obtain ⟨before, hbefore, htext⟩ := exists_blanks text
    split at hparse
    next found rest hread =>
      obtain ⟨taken, htaken, hvalue⟩ := readValue_takes maxDepth hread
      split at hparse
      next hend =>
        cases hparse
        have hafter : IsBlanks rest := skipBlank_eq_nil.mp (List.isEmpty_iff.mp hend)
        exact ⟨before, taken, rest, by rw [← htaken, ← htext], hbefore, hvalue, hafter⟩
      next => cases hparse
    next => cases hparse
  · rintro ⟨before, taken, after, rfl, hbefore, hvalue, hafter⟩
    have hend : skipBlank after = [] := skipBlank_eq_nil.mpr hafter
    have hstops : Stops after := by
      have hblanks := hafter.stops (by simp [Stops] : Stops [])
      rwa [List.append_nil] at hblanks
    rw [read_skipBlank hvalue (readValue_of_isValue hvalue) hbefore hstops]
    simp [hend]

theorem isObject_of_isValue {members : List (String × Json)}
    (hvalue : IsValue depth text (object members)) : IsObject depth text members := by
  cases hvalue with
  | word hword => simp [words] at hword
  | object hobject => exact hobject

theorem parse?_of_isValue {value : Json} (hvalue : IsValue maxDepth text value) :
    parse? text = some value := by
  refine parse?_eq_some.mpr ⟨[], text, [], by simp, ?_, hvalue, ?_⟩
  · simp [IsBlanks]
  · simp [IsBlanks]

theorem parse?_of_isObject {members : List (String × Json)}
    (hobject : IsObject maxDepth text members) : parse? text = some (object members) :=
  parse?_of_isValue (.object hobject)

/-- A text that is read as an object and starts with a brace starts with that object. -/
theorem exists_object_of_parse? {members : List (String × Json)} (hhead : text.head? = some '{')
    (hparse : parse? text = some (object members)) :
    ∃ taken rest, text = taken ++ rest ∧ IsObject maxDepth taken members := by
  obtain ⟨before, taken, after, rfl, hbefore, hvalue, -⟩ := parse?_eq_some.mp hparse
  cases before with
  | nil => exact ⟨taken, after, rfl, isObject_of_isValue hvalue⟩
  | cons c before =>
      cases hhead
      exact absurd (hbefore '{' List.mem_cons_self) (by decide)

end StreamLinks.Json
