import StreamLinks.Proofs.Cipher.Lexing

/-!
# Lexing is local

What stands behind a text that has been read as tokens is read as if nothing stood in front of
it, and fails as it would alone.  All that is needed is that the two texts do not touch within
a token: white space keeps them apart, and so does a mark that nothing joins.
-/

namespace StreamLinks.Cipher

variable {front gap back : List Char} {token : Token} {tokens : List Token}

/-! ## The walk over a text in two parts -/

/-- One token is taken off the front, whatever becomes of the rest. -/
theorem LexesToken.scan_eq {text rest : List Char} (htoken : LexesToken text token rest) :
    scan 0 text = (scan 0 rest).map (token :: ·) := by
  obtain ⟨c, others, length, rfl, hspace, hread, rfl⟩ := htoken.readToken
  rw [Cipher.scan, hspace, if_neg Bool.false_ne_true, hread, ← scan_drop]
  change (do return token :: (← scan length others)) = _
  cases scan length others with
  | error e => rfl
  | ok found => rfl

theorem scan_gap_append (hgap : Text.IsGap gap) (back : List Char) :
    scan 0 (gap ++ back) = scan 0 back := by
  induction gap with
  | nil => rfl
  | cons c gap ih =>
      have hspace := hgap c List.mem_cons_self
      have hrest : Text.IsGap gap := fun d hd => hgap d (List.mem_cons_of_mem c hd)
      rw [List.cons_append, scan, hspace, if_pos rfl, ih hrest]

/-- The walk goes over the tokens of a text and is then at the front of the next one.  The
induction is on the tokens, so what the second text holds never matters, not even whether it
has tokens. -/
theorem Lexes.scan_append (hlexes : Lexes front tokens) (hmeet : Meet front back) :
    Cipher.scan 0 (front ++ back) = (Cipher.scan 0 back).map (tokens ++ ·) := by
  induction hlexes with
  | done =>
      rw [List.nil_append]
      cases Cipher.scan 0 back <;> rfl
  | @space c rest _ hspace hrest ih =>
      have hbehind := ih (@Meet.of_append [c] rest back hmeet)
      rw [List.cons_append, Cipher.scan, hspace, if_pos rfl, hbehind]
  | token htoken hrest ih =>
      obtain ⟨taken, rfl⟩ := htoken.taken
      have hfirst := (htoken.append hmeet).scan_eq
      rw [hfirst, ih hmeet.of_append]
      cases Cipher.scan 0 back <;> rfl

/-! ## Texts that are kept apart -/

/-- The marks that are tokens of their own, whatever stands behind them. -/
def loneMarks : List Char :=
  [';', ',', '.', '(', ')', '[', ']']

/-- The text ends with such a mark. -/
def EndsWithLoneMark (text : List Char) : Prop :=
  ∃ c ∈ loneMarks, text.getLast? = some c

theorem EndsWithLoneMark.meet (hends : EndsWithLoneMark front) (back : List Char) :
    Meet front back := by
  obtain ⟨c, hc, hlast⟩ := hends
  have halone : loneMarks.all fun c => !isWordPart c && c != '=' && c != '%' := by decide
  have hmark := List.all_eq_true.mp halone c hc
  simp only [Bool.and_eq_true, Bool.not_eq_true', bne_iff_ne, ne_eq] at hmark
  exact meet_of_last hlast hmark.1.1 ⟨hmark.1.2, hmark.2⟩ back

theorem meet_of_gap (hgap : Text.IsGap gap) (hne : gap ≠ []) (front : List Char) :
    Meet front gap := by
  obtain ⟨c, rest, rfl⟩ := List.exists_cons_of_ne_nil hne
  have hspace := hgap c List.mem_cons_self
  have hpart : isWordPart c = false := by
    by_contra hpart
    rw [Bool.not_eq_false] at hpart
    rw [isSpace_of_isWordPart hpart] at hspace
    cases hspace
  have hassign : c ≠ '=' := by
    rintro rfl
    exact absurd hspace (by decide)
  exact meet_of_first rfl hpart hassign front

/-- Behind a text that has tokens, and white space unless that text ends with a lone mark,
any text is read as it is read alone: its tokens come behind the others, and where it has none
the reason is the same. -/
theorem lexing_is_local {front gap : String} (hfront : tokenize front = .ok tokens)
    (hgap : Text.IsGap gap.toList) (hapart : gap ≠ "" ∨ EndsWithLoneMark front.toList)
    (back : String) :
    tokenize (front ++ gap ++ back) = (tokenize back).map (tokens ++ ·) := by
  have hlexes := tokenize_eq_ok.mp hfront
  have hmeet : Meet front.toList (gap.toList ++ back.toList) := by
    rcases hapart with hgiven | hends
    · have hne : gap.toList ≠ [] := by simpa using hgiven
      refine (meet_of_gap hgap hne front.toList).of_head ?_
      rw [List.head?_append_of_ne_nil _ hne]
    · exact hends.meet _
  have hwhole : (front ++ gap ++ back).toList = front.toList ++ (gap.toList ++ back.toList) := by
    simp
  rw [tokenize, hwhole, hlexes.scan_append hmeet, scan_gap_append hgap, tokenize]

/-- A space keeps two equals signs apart, and a bracket needs none; the number that runs into a
letter is reported as it is without the text in front of it. -/
theorem lexing_is_local_of_marks :
    tokenize ("a=" ++ " " ++ "=b") = .ok [.word "a", .assign, .assign, .word "b"] ∧
      tokenize ("a[" ++ "" ++ "12b]") = .error (.malformedNumber "12b") := by
  have hassign : tokenize "a=" = .ok [.word "a", .assign] := by decide +kernel
  have hbracket : tokenize "a[" = .ok [.word "a", .openBracket] := by decide +kernel
  have hrest : tokenize "=b" = .ok [.assign, .word "b"] := by decide +kernel
  have hnumber : tokenize "12b]" = .error (.malformedNumber "12b") := by decide +kernel
  have hspace : Text.IsGap " ".toList := Text.isGap_space
  have hnone : Text.IsGap "".toList := Text.isGap_nil
  have hspaced : tokenize ("a=" ++ " " ++ "=b") =
      (tokenize "=b").map ([.word "a", .assign] ++ ·) :=
    lexing_is_local hassign hspace (.inl (by decide)) "=b"
  have hjoined : tokenize ("a[" ++ "" ++ "12b]") =
      (tokenize "12b]").map ([.word "a", .openBracket] ++ ·) :=
    lexing_is_local hbracket hnone (.inr ⟨'[', by decide, by decide⟩) "12b]"
  rw [hrest] at hspaced
  rw [hnumber] at hjoined
  exact ⟨hspaced, hjoined⟩

end StreamLinks.Cipher
