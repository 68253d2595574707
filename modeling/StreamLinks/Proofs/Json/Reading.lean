import StreamLinks.Proofs.Json.Grammar
import StreamLinks.Proofs.Text.Pieces

/-!
# What the readers take is JSON

Whatever a reader makes of a text, the part that it takes from the front writes just that
by the grammar.  This is proved for every reader in the order in which the readers are
built from each other; for values the induction is on the nesting budget.
-/

namespace StreamLinks.Json

open Text (Reader)

/-- What the reader takes from the front of a text is in the relation to what it makes of
it. -/
def Takes {α : Type} (reader : Reader α) (p : List Char → α → Prop) : Prop :=
  ∀ {text a rest}, reader text = some (a, rest) → ∃ taken, text = taken ++ rest ∧ p taken a

theorem exists_blanks (text : List Char) :
    ∃ blanks, IsBlanks blanks ∧ text = blanks ++ skipBlank text := by
  refine ⟨text.takeWhile isBlank, ?_, List.takeWhile_append_dropWhile.symm⟩
  exact List.all_eq_true.mp List.all_takeWhile

/-! ## Strings -/

theorem isUnit_of_hexNumber? {unit : Nat} {text : List Char}
    (hnumber : Text.hexNumber? 4 text = some unit) : IsUnit (text.take 4) unit := by
  unfold Text.hexNumber? at hnumber
  split at hnumber
  · cases hnumber
  · refine ⟨?_, hnumber⟩
    rw [List.length_take]
    omega

theorem escape?_sound {text : List Char} {c : Char} {length : Nat}
    (hescape : escape? text = some (c, length)) : IsEscape (text.take length) c := by
  unfold escape? at hescape
  split at hescape
  case h_9 rest =>
    obtain ⟨unit, hunit, hescape⟩ := Option.bind_eq_some_iff.mp hescape
    have hdigits := isUnit_of_hexNumber? hunit
    split at hescape
    next hhigh =>
      split at hescape
      next others hothers =>
        obtain ⟨low, hlow, hpair⟩ := Option.bind_eq_some_iff.mp hescape
        have hdigits' := isUnit_of_hexNumber? hlow
        have hboth : rest.take 10 = rest.take 4 ++ '\\' :: 'u' :: others.take 4 := by
          rw [show 10 = 4 + 6 from rfl, List.take_add, hothers]
          rfl
        split at hpair
        next hsurrogate =>
          rw [Option.some.injEq, Prod.mk.injEq] at hpair
          obtain ⟨rfl, rfl⟩ := hpair
          rw [List.take_succ_cons, hboth]
          exact .pair hdigits hdigits' hhigh hsurrogate
        next => cases hpair
      next => cases hescape
    next hhigh =>
      split at hescape
      next => cases hescape
      next hlow =>
        cases hescape
        exact .unit hdigits hhigh hlow
  case h_10 => cases hescape
  all_goals
    cases hescape
    exact .short (by decide)

theorem readContent_sound {skip : Nat} {text content rest : List Char}
    (hread : readContent skip text = some (content, rest)) :
    ∃ taken, text.drop skip = taken ++ '"' :: rest ∧ IsContent taken content := by
  fun_induction readContent skip text generalizing content rest with
  | case1 => cases hread
  | case2 skip c others ih => exact ih hread
  | case3 others =>
      cases hread
      exact ⟨[], rfl, .nil⟩
  | case4 others hquote ih =>
      obtain ⟨⟨escaped, length⟩, hescape, hread⟩ := Option.bind_eq_some_iff.mp hread
      obtain ⟨⟨more, left⟩, hmore, heq⟩ := Option.bind_eq_some_iff.mp hread
      cases heq
      obtain ⟨taken, htaken, hcontent⟩ := ih length hmore
      refine ⟨'\\' :: (others.take length ++ taken), ?_, .escape (escape?_sound hescape) hcontent⟩
      rw [List.drop_zero, List.cons_append, List.append_assoc, ← htaken,
        List.take_append_drop]
  | case5 c others hquote hbackslash hcontrol => cases hread
  | case6 c others hquote hbackslash hcontrol ih =>
      obtain ⟨⟨more, left⟩, hmore, heq⟩ := Option.bind_eq_some_iff.mp hread
      cases heq
      obtain ⟨taken, htaken, hcontent⟩ := ih hmore
      rw [List.drop_zero] at htaken ⊢
      exact ⟨c :: taken, by rw [htaken, List.cons_append],
        .plain hquote hbackslash (Nat.le_of_not_lt hcontrol) hcontent⟩

theorem readString_takes : Takes readString IsString := by
  intro text value rest hread
  unfold readString at hread
  split at hread
  next others =>
    obtain ⟨⟨content, left⟩, hcontent, heq⟩ := Option.map_eq_some_iff.mp hread
    cases heq
    obtain ⟨taken, htaken, hgrammar⟩ := readContent_sound hcontent
    rw [List.drop_zero] at htaken
    exact ⟨'"' :: (taken ++ ['"']), by simp [htaken], .quoted hgrammar⟩
  next => cases hread

/-! ## Numbers -/

theorem readDigits?_sound {text digits rest : List Char}
    (hread : readDigits? text = some (digits, rest)) : text = digits ++ rest ∧ IsDigits digits := by
  unfold readDigits? at hread
  split at hread
  next => cases hread
  next hne =>
    cases hread
    refine ⟨List.takeWhile_append_dropWhile.symm, hne, ?_⟩
    exact List.all_eq_true.mp List.all_takeWhile

theorem readMinus_sound {text rest : List Char} {negative : Bool}
    (hread : readMinus text = (negative, rest)) :
    ∃ minus, text = minus ++ rest ∧ IsMinus minus negative := by
  unfold readMinus at hread
  split at hread
  · cases hread
    exact ⟨['-'], rfl, .present⟩
  · cases hread
    exact ⟨[], rfl, .absent⟩

theorem readFraction?_takes : Takes readFraction? IsFraction := by
  intro text digits rest hread
  unfold readFraction? at hread
  split at hread
  · obtain ⟨rfl, hdigits⟩ := readDigits?_sound hread
    exact ⟨'.' :: digits, rfl, .present hdigits⟩
  · cases hread
    exact ⟨[], rfl, .absent⟩

theorem readExponent?_takes : Takes readExponent? IsExponent := by
  intro text exponent rest hread
  unfold readExponent? at hread
  split at hread
  next c others =>
    split at hread
    next hmark =>
      split at hread
      next negative unsigned hunsigned =>
        have hsign : ∃ sign, others = sign ++ unsigned ∧ IsSign sign negative := by
          split at hunsigned
          next =>
            cases hunsigned
            exact ⟨['+'], rfl, .plus⟩
          next =>
            obtain ⟨minus, hothers, hminus⟩ := readMinus_sound hunsigned
            exact ⟨minus, hothers, .minus hminus⟩
        obtain ⟨sign, rfl, hsign⟩ := hsign
        obtain ⟨⟨digits, left⟩, hdigits, heq⟩ := Option.map_eq_some_iff.mp hread
        cases heq
        obtain ⟨rfl, hgrammar⟩ := readDigits?_sound hdigits
        exact ⟨c :: (sign ++ digits), by simp, .present hmark hsign hgrammar⟩
    next =>
      cases hread
      exact ⟨[], rfl, .absent⟩
  next =>
    cases hread
    exact ⟨[], rfl, .absent⟩

theorem readNumeral?_takes : Takes readNumeral? IsNumber := by
  intro text numeral rest hread
  unfold readNumeral? at hread
  rcases hsplit : readMinus text with ⟨negative, unsigned⟩
  rw [hsplit] at hread
  obtain ⟨minus, htext, hminus⟩ := readMinus_sound hsplit
  obtain ⟨⟨whole, afterWhole⟩, hwhole, hread⟩ := Option.bind_eq_some_iff.mp hread
  obtain ⟨hunsigned, hdigits⟩ := readDigits?_sound hwhole
  dsimp only at hread
  split at hread
  · cases hread
  next hzero =>
    obtain ⟨⟨fraction, afterFraction⟩, hfraction, hread⟩ := Option.bind_eq_some_iff.mp hread
    obtain ⟨⟨exponent, left⟩, hexponent, heq⟩ := Option.bind_eq_some_iff.mp hread
    cases heq
    obtain ⟨point, rfl, hpoint⟩ := readFraction?_takes hfraction
    obtain ⟨power, rfl, hpower⟩ := readExponent?_takes hexponent
    rw [hunsigned] at htext
    have hnoZero : whole.head? = some '0' → whole.length = 1 := by
      intro hhead
      by_contra hlength
      exact hzero ⟨hhead, hlength⟩
    exact ⟨minus ++ (whole ++ (point ++ power)), by simp [htext],
      .intro hminus ⟨hdigits, hnoZero⟩ hpoint hpower⟩

/-! ## Values -/

theorem readScalar_takes (depth : Nat) : Takes readScalar (IsValue depth) := by
  have hword : ∀ {word text rest : List Char} {value a : Json}, (word, value) ∈ words →
      (Text.after? word text).map (fun rest => (value, rest)) = some (a, rest) →
      ∃ taken, text = taken ++ rest ∧ IsValue depth taken a := by
    intro word text rest value a hword hread
    obtain ⟨left, hafter, heq⟩ := Option.map_eq_some_iff.mp hread
    cases heq
    exact ⟨word, Text.after?_eq_some.mp hafter, .word hword⟩
  intro text value rest hread
  unfold readScalar at hread
  split at hread
  next =>
    obtain ⟨⟨content, left⟩, hstring, heq⟩ := Option.map_eq_some_iff.mp hread
    cases heq
    obtain ⟨taken, htext, hgrammar⟩ := readString_takes hstring
    exact ⟨taken, htext, .string hgrammar⟩
  next => exact hword (by simp [words]) hread
  next => exact hword (by simp [words]) hread
  next => exact hword (by simp [words]) hread
  next =>
    obtain ⟨⟨numeral, left⟩, hnumeral, hread⟩ := Option.bind_eq_some_iff.mp hread
    dsimp only at hread
    split at hread
    next hfits =>
      cases hread
      obtain ⟨taken, rfl, hgrammar⟩ := readNumeral?_takes hnumeral
      refine ⟨taken, rfl, ?_⟩
      rw [List.length_append, Nat.add_sub_cancel, List.take_left]
      exact .number hgrammar hfits
    next => cases hread

section

variable {reader : Reader Json} {depth : Nat} {text rest : List Char}

theorem readItems_sound (hreader : Takes reader (IsValue depth)) {count : Nat} {items : List Json}
    (hread : readItems reader count text = some (items, rest)) :
    ∃ taken, text = taken ++ ']' :: rest ∧ IsItems depth taken items := by
  induction count generalizing text items with
  | zero => cases hread
  | succ count ih =>
      obtain ⟨before, hbefore, htext⟩ := exists_blanks text
      obtain ⟨⟨item, others⟩, hitem, hread⟩ := Option.bind_eq_some_iff.mp hread
      obtain ⟨value, hothers, hvalue⟩ := hreader hitem
      obtain ⟨after, hafter, hbehind⟩ := exists_blanks others
      dsimp only at hread
      split at hread
      next left hleft =>
        cases hread
        rw [hothers, hbehind, hleft] at htext
        exact ⟨_, by simpa using htext, .last hbefore hvalue hafter⟩
      next left hleft =>
        obtain ⟨⟨more, last⟩, hmore, heq⟩ := Option.bind_eq_some_iff.mp hread
        cases heq
        obtain ⟨taken, hnext, hitems⟩ := ih hmore
        rw [hothers, hbehind, hleft, hnext] at htext
        exact ⟨_, by simpa using htext, .more hbefore hvalue hafter hitems⟩
      next => cases hread

theorem readMember_takes (hreader : Takes reader (IsValue depth)) :
    Takes (readMember reader) (IsMember depth) := by
  intro text member rest hread
  obtain ⟨before, hbefore, htext⟩ := exists_blanks text
  obtain ⟨⟨key, afterKey⟩, hkey, hread⟩ := Option.bind_eq_some_iff.mp hread
  obtain ⟨behind, hbehind, hafterKey⟩ := exists_blanks afterKey
  obtain ⟨afterColon, hcolon, hread⟩ := Option.bind_eq_some_iff.mp hread
  obtain ⟨ahead, hahead, hafterColon⟩ := exists_blanks afterColon
  obtain ⟨⟨value, left⟩, hvalue, heq⟩ := Option.bind_eq_some_iff.mp hread
  cases heq
  obtain ⟨quoted, hquoted, hkey⟩ := readString_takes hkey
  obtain ⟨taken, htaken, hvalue⟩ := hreader hvalue
  have hmark := Text.after?_eq_some.mp hcolon
  rw [hquoted, hafterKey, hmark, hafterColon, htaken] at htext
  exact ⟨_, by simpa using htext, .intro hbefore hkey hbehind hahead hvalue⟩

theorem readMembers_sound (hreader : Takes reader (IsValue depth)) {count : Nat}
    {members : List (String × Json)}
    (hread : readMembers reader count text = some (members, rest)) :
    ∃ taken, text = taken ++ '}' :: rest ∧ IsMembers depth taken members := by
  induction count generalizing text members with
  | zero => cases hread
  | succ count ih =>
      obtain ⟨⟨member, others⟩, hmember, hread⟩ := Option.bind_eq_some_iff.mp hread
      obtain ⟨first, htext, hfirst⟩ := readMember_takes hreader hmember
      obtain ⟨after, hafter, hbehind⟩ := exists_blanks others
      dsimp only at hread
      split at hread
      next left hleft =>
        cases hread
        rw [hbehind, hleft] at htext
        exact ⟨_, by simpa using htext, .last hfirst hafter⟩
      next left hleft =>
        obtain ⟨⟨more, last⟩, hmore, heq⟩ := Option.bind_eq_some_iff.mp hread
        cases heq
        obtain ⟨taken, hnext, hmembers⟩ := ih hmore
        rw [hbehind, hleft, hnext] at htext
        exact ⟨_, by simpa using htext, .more hfirst hafter hmembers⟩
      next => cases hread

end

theorem readValue_takes (depth : Nat) : Takes (readValue depth) (IsValue depth) := by
  induction depth with
  | zero =>
      intro text value rest hread
      unfold readValue at hread
      split at hread
      · cases hread
      · cases hread
      · exact readScalar_takes 0 hread
  | succ depth ih =>
      intro text value rest hread
      unfold readValue at hread
      split at hread
      next others =>
        obtain ⟨blanks, hblanks, hothers⟩ := exists_blanks others
        split at hread
        next left hleft =>
          cases hread
          rw [hleft] at hothers
          exact ⟨'[' :: (blanks ++ [']']), by simp [hothers], .emptyArray hblanks⟩
        next =>
          obtain ⟨⟨items, left⟩, hitems, heq⟩ := Option.map_eq_some_iff.mp hread
          cases heq
          obtain ⟨taken, htaken, hgrammar⟩ := readItems_sound ih hitems
          exact ⟨'[' :: (taken ++ [']']), by simp [htaken], .array hgrammar⟩
      next others =>
        obtain ⟨blanks, hblanks, hothers⟩ := exists_blanks others
        split at hread
        next left hleft =>
          cases hread
          rw [hleft] at hothers
          exact ⟨'{' :: (blanks ++ ['}']), by simp [hothers], .object (.empty hblanks)⟩
        next =>
          obtain ⟨⟨members, left⟩, hmembers, heq⟩ := Option.map_eq_some_iff.mp hread
          cases heq
          obtain ⟨taken, htaken, hgrammar⟩ := readMembers_sound ih hmembers
          exact ⟨'{' :: (taken ++ ['}']), by simp [htaken], .object (.members hgrammar)⟩
      next => exact readScalar_takes (depth + 1) hread

end StreamLinks.Json
