import StreamLinks.Proofs.Cipher.Bodies

/-!
# Finding a definition

Where a definition of a name begins, the script shows the word `function`, the name
and an opening parenthesis, in one of two orders, with white space between them and
at most an equals sign.  Such an opening cannot reach over a closing parenthesis or
a brace, and a body has no room for it: the word `function` is not found among the
tokens of a body.
-/

namespace StreamLinks.Cipher

open Text (IsGap isGap_nil isGap_space)

theorem isFreeName_eq_true {name : String} :
    isFreeName name = true ↔ isIdentifier name = true ∧ name ∉ reservedWords := by
  simp [isFreeName]

theorem isName_function : IsName "function".toList where
  start := ⟨'f', "unction".toList, by simp, by decide⟩
  parts := by
    have hall : "function".toList.all isWordPart = true := by decide +kernel
    exact List.all_eq_true.mp hall

/-! ## The function that a definition gives -/

theorem skipSpace_append {gap rest : List Char} (hgap : IsGap gap)
    (hrest : ∀ c, rest.head? = some c → Text.isSpace c = false) :
    skipSpace (gap ++ rest) = rest :=
  (hgap.isRun hrest).dropWhile_eq

theorem IsName.not_space {name : List Char} (hname : IsName name) (rest : List Char) (c : Char)
    (hc : (name ++ rest).head? = some c) : Text.isSpace c = false := by
  obtain ⟨d, tail, rfl, hstart⟩ := hname.start
  cases hc
  exact isSpace_of_isWordPart (isWordPart_of_isWordStart hstart)

theorem definitionTail?_of_text {gap gap' params body rest : List Char} (hgap : IsGap gap)
    (hgap' : IsGap gap') (hparams : ')' ∉ params) (hbody : '}' ∉ body) :
    definitionTail? (gap ++ '(' :: (params ++ ')' :: (gap' ++ '{' :: (body ++ '}' :: rest)))) =
      some ⟨String.ofList params, String.ofList body⟩ := by
  have hopen : ∀ others, skipSpace (gap ++ '(' :: others) = '(' :: others :=
    fun others => skipSpace_append hgap fun c hc => by cases hc; decide
  have hbrace : ∀ others, skipSpace (gap' ++ '{' :: others) = '{' :: others :=
    fun others => skipSpace_append hgap' fun c hc => by cases hc; decide
  have hparams' : ∀ others, Text.cutAt? ')' (params ++ ')' :: others) = some (params, others) :=
    fun others => Text.cutAt?_eq_some.mpr ⟨rfl, hparams⟩
  have hbody' : Text.cutAt? '}' (body ++ '}' :: rest) = some (body, rest) :=
    Text.cutAt?_eq_some.mpr ⟨rfl, hbody⟩
  simp [definitionTail?, hopen, hbrace, hparams', hbody', Text.after?]

theorem declared?_of_text {name gap rest : List Char} (hname : IsName name) (hgap : IsGap gap)
    (hne : gap ≠ []) :
    declared? name ("function".toList ++ (gap ++ (name ++ rest))) = definitionTail? rest := by
  have hskip : skipSpace (gap ++ (name ++ rest)) = name ++ rest :=
    skipSpace_append hgap (hname.not_space rest)
  have hfunction : ∀ others, Text.after? "function".toList ("function".toList ++ others) =
      some others := fun others => Text.after?_eq_some.mpr rfl
  have hafter : Text.after? name (name ++ rest) = some rest := Text.after?_eq_some.mpr rfl
  have hlength : ¬ (name ++ rest).length = (gap ++ (name ++ rest)).length := by
    have hpos := List.length_pos_iff.mpr hne
    simp only [List.length_append]
    omega
  simp only [declared?, hfunction, Option.bind_eq_bind, Option.bind_some, hskip, hafter,
    if_neg hlength]

theorem assigned?_of_text {name gap gap' rest : List Char} (hgap : IsGap gap)
    (hgap' : IsGap gap') :
    assigned? name (name ++ (gap ++ '=' :: (gap' ++ ("function".toList ++ rest)))) =
      definitionTail? rest := by
  have hname : ∀ others, Text.after? name (name ++ others) = some others :=
    fun others => Text.after?_eq_some.mpr rfl
  have hassign : ∀ others, skipSpace (gap ++ '=' :: others) = '=' :: others :=
    fun others => skipSpace_append hgap fun c hc => by cases hc; decide
  have hsign : ∀ others, Text.after? ['='] ('=' :: others) = some others :=
    fun others => Text.after?_eq_some.mpr rfl
  have hskip : skipSpace (gap' ++ ("function".toList ++ rest)) = "function".toList ++ rest :=
    skipSpace_append hgap' (isName_function.not_space rest)
  have hfunction : Text.after? "function".toList ("function".toList ++ rest) = some rest :=
    Text.after?_eq_some.mpr rfl
  simp only [assigned?, Option.bind_eq_bind, hname, Option.bind_some, hassign, hsign, hskip,
    hfunction]

/-! ## Openings -/

/-- The text opens a definition `function NAME(`. -/
def OpensDeclared (name text : List Char) : Prop :=
  ∃ gap gap' rest, gap ≠ [] ∧ IsGap gap ∧ IsGap gap' ∧
    text = "function".toList ++ gap ++ name ++ gap' ++ '(' :: rest

/-- The text opens a definition `NAME=function(`. -/
def OpensAssigned (name text : List Char) : Prop :=
  ∃ gap gap' gap'' rest, IsGap gap ∧ IsGap gap' ∧ IsGap gap'' ∧
    text = name ++ gap ++ '=' :: gap' ++ "function".toList ++ gap'' ++ '(' :: rest

theorem isGap_skipped (text : List Char) : ∃ gap, IsGap gap ∧ text = gap ++ skipSpace text :=
  Text.exists_gap text

theorem definitionTail?_opens {text : List Char} {definition : Definition}
    (h : definitionTail? text = some definition) :
    ∃ gap rest, IsGap gap ∧ text = gap ++ '(' :: rest := by
  simp only [definitionTail?, Option.bind_eq_bind, Option.bind_eq_some_iff,
    Text.after?_eq_some] at h
  obtain ⟨rest, hrest, _⟩ := h
  obtain ⟨gap, hgap, htext⟩ := isGap_skipped text
  rw [hrest] at htext
  exact ⟨gap, rest, hgap, htext⟩

theorem declared?_text {name text : List Char} {definition : Definition}
    (h : declared? name text = some definition) :
    ∃ gap rest, gap ≠ [] ∧ IsGap gap ∧ text = "function".toList ++ (gap ++ (name ++ rest)) ∧
      definitionTail? rest = some definition := by
  simp only [declared?, Option.bind_eq_bind, Option.bind_eq_some_iff, Text.after?_eq_some] at h
  obtain ⟨named, rfl, h⟩ := h
  split at h
  · cases h
  next hlength =>
    obtain ⟨gap, hgap, hnamed⟩ := isGap_skipped named
    obtain ⟨rest, hrest, htail⟩ := Option.bind_eq_some_iff.mp h
    rw [Text.after?_eq_some] at hrest
    refine ⟨gap, rest, ?_, hgap, by rw [← hrest, ← hnamed], htail⟩
    rintro rfl
    exact hlength (congrArg List.length hnamed.symm)

theorem assigned?_text {name text : List Char} {definition : Definition}
    (h : assigned? name text = some definition) :
    ∃ gap gap' rest, IsGap gap ∧ IsGap gap' ∧
      text = name ++ (gap ++ '=' :: (gap' ++ ("function".toList ++ rest))) ∧
      definitionTail? rest = some definition := by
  simp only [assigned?, Option.bind_eq_bind, Option.bind_eq_some_iff,
    Text.after?_eq_some] at h
  obtain ⟨left, rfl, right, hassign, rest, hfunction, htail⟩ := h
  obtain ⟨gap, hgap, hleft⟩ := isGap_skipped left
  obtain ⟨gap', hgap', hright⟩ := isGap_skipped right
  refine ⟨gap, gap', rest, hgap, hgap', ?_, htail⟩
  rw [hleft, hassign, hright, hfunction]
  simp

theorem declared?_opens {name text : List Char} {definition : Definition}
    (h : declared? name text = some definition) : OpensDeclared name text := by
  obtain ⟨gap, rest, hne, hgap, rfl, htail⟩ := declared?_text h
  obtain ⟨gap', others, hgap', rfl⟩ := definitionTail?_opens htail
  exact ⟨gap, gap', others, hne, hgap, hgap', by simp⟩

theorem assigned?_opens {name text : List Char} {definition : Definition}
    (h : assigned? name text = some definition) : OpensAssigned name text := by
  obtain ⟨gap, gap', rest, hgap, hgap', rfl, htail⟩ := assigned?_text h
  obtain ⟨gap'', others, hgap'', rfl⟩ := definitionTail?_opens htail
  exact ⟨gap, gap', gap'', others, hgap, hgap', hgap'', by simp⟩

theorem declared?_eq_none {name text : List Char} (h : ¬ OpensDeclared name text) :
    declared? name text = none :=
  Option.eq_none_iff_forall_not_mem.mpr fun _ hfound => h (declared?_opens hfound)

theorem assigned?_eq_none {name text : List Char} (h : ¬ OpensAssigned name text) :
    assigned? name text = none :=
  Option.eq_none_iff_forall_not_mem.mpr fun _ hfound => h (assigned?_opens hfound)

theorem definitionAt?_cons (name : List Char) (c : Char) (rest : List Char) :
    definitionAt? name (c :: rest) =
      (declared? name (c :: rest) <|> if joinsName c then none else assigned? name rest) := rfl

/-- Without an opening no definition starts at a place. -/
theorem definitionAt?_eq_none {name text : List Char} (hdeclared : ¬ OpensDeclared name text)
    (hassigned : ∀ c rest, text = c :: rest → joinsName c = false →
      ¬ OpensAssigned name rest) :
    definitionAt? name text = none := by
  cases text with
  | nil => exact congrArg (· <|> none) (declared?_eq_none hdeclared)
  | cons c rest =>
      rw [definitionAt?_cons, declared?_eq_none hdeclared]
      cases hjoins : joinsName c with
      | true => rfl
      | false => exact assigned?_eq_none (hassigned c rest rfl hjoins)

/-- Where no definition starts at any place of a region, the search goes on behind. -/
theorem laterDefinition?_append {name region rest : List Char}
    (hregion : ∀ back, back <:+ region → back ≠ [] → definitionAt? name (back ++ rest) = none) :
    laterDefinition? name (region ++ rest) = laterDefinition? name rest := by
  induction region with
  | nil => rfl
  | cons c region ih =>
      have hhere := hregion (c :: region) (List.suffix_refl _) (List.cons_ne_nil c region)
      have hlater := ih fun back hback => hregion back (hback.trans (List.suffix_cons c region))
      rw [List.cons_append] at hhere ⊢
      rw [laterDefinition?, hhere, hlater]
      rfl

/-! ## Places without an opening -/

/-- The characters that an opening is made of before its parenthesis. -/
def IsPlain (c : Char) : Prop :=
  isWordPart c = true ∨ Text.isSpace c = true ∨ c = '='

instance (c : Char) : Decidable (IsPlain c) :=
  inferInstanceAs (Decidable (_ ∨ _ ∨ _))

private theorem split_before {α : Type} {u v r s : List α} {x y : α}
    (h : u ++ x :: r = v ++ y :: s) (hx : x ∉ v) (hne : x ≠ y) : ∃ m, u = v ++ y :: m := by
  rcases List.append_eq_append_iff.mp h with ⟨m, rfl, hm⟩ | ⟨m, rfl, hm⟩
  · cases m with
    | nil =>
        obtain ⟨rfl, _⟩ := List.cons.inj hm
        exact (hne rfl).elim
    | cons z m =>
        obtain ⟨rfl, _⟩ := List.cons.inj hm
        exact (hx (by simp)).elim
  · cases m with
    | nil =>
        obtain ⟨rfl, _⟩ := List.cons.inj hm
        exact (hne rfl).elim
    | cons z m =>
        obtain ⟨rfl, _⟩ := List.cons.inj hm
        exact ⟨m, rfl⟩

theorem isPlain_of_isName {name : List Char} (hname : IsName name) : ∀ c ∈ name, IsPlain c :=
  fun c hc => .inl (hname.parts c hc)

theorem isPlain_of_isGap {gap : List Char} (hgap : IsGap gap) : ∀ c ∈ gap, IsPlain c :=
  fun c hc => .inr (.inl (hgap c hc))

theorem isPlain_of_declared {name gap gap' : List Char} (hname : IsName name)
    (hgap : IsGap gap) (hgap' : IsGap gap') :
    ∀ c ∈ "function".toList ++ gap ++ name ++ gap', IsPlain c := by
  simp only [List.forall_mem_append]
  exact ⟨⟨⟨isPlain_of_isName isName_function, isPlain_of_isGap hgap⟩,
    isPlain_of_isName hname⟩, isPlain_of_isGap hgap'⟩

theorem isPlain_of_assigned {name gap gap' gap'' : List Char} (hname : IsName name)
    (hgap : IsGap gap) (hgap' : IsGap gap') (hgap'' : IsGap gap'') :
    ∀ c ∈ name ++ gap ++ '=' :: gap' ++ "function".toList ++ gap'', IsPlain c := by
  simp only [List.forall_mem_append, List.forall_mem_cons]
  exact ⟨⟨⟨⟨isPlain_of_isName hname, isPlain_of_isGap hgap⟩, .inr (.inr rfl),
    isPlain_of_isGap hgap'⟩, isPlain_of_isName isName_function⟩, isPlain_of_isGap hgap''⟩

section

variable {name text rest : List Char} {c : Char}

/-- An opening does not reach over a character that it is not made of. -/
theorem OpensDeclared.of_append (hname : IsName name) (hplain : ¬ IsPlain c) (hc : c ≠ '(')
    (hopens : OpensDeclared name (text ++ c :: rest)) : OpensDeclared name text := by
  obtain ⟨gap, gap', others, hne, hgap, hgap', htext⟩ := hopens
  have hmem := fun h => hplain (isPlain_of_declared hname hgap hgap' c h)
  obtain ⟨m, rfl⟩ := split_before htext hmem hc
  exact ⟨gap, gap', m, hne, hgap, hgap', rfl⟩

theorem OpensAssigned.of_append (hname : IsName name) (hplain : ¬ IsPlain c) (hc : c ≠ '(')
    (hopens : OpensAssigned name (text ++ c :: rest)) : OpensAssigned name text := by
  obtain ⟨gap, gap', gap'', others, hgap, hgap', hgap'', htext⟩ := hopens
  have hmem := fun h => hplain (isPlain_of_assigned hname hgap hgap' hgap'' c h)
  obtain ⟨m, rfl⟩ := split_before htext hmem hc
  exact ⟨gap, gap', gap'', m, hgap, hgap', hgap'', rfl⟩

theorem OpensDeclared.paren_mem (hopens : OpensDeclared name text) : '(' ∈ text := by
  obtain ⟨gap, gap', others, _, _, _, rfl⟩ := hopens
  simp

theorem OpensAssigned.paren_mem (hopens : OpensAssigned name text) : '(' ∈ text := by
  obtain ⟨gap, gap', gap'', others, _, _, _, rfl⟩ := hopens
  simp

def Opens (name text : List Char) : Prop :=
  OpensDeclared name text ∨ OpensAssigned name text

theorem Opens.of_append (hname : IsName name) (hplain : ¬ IsPlain c) (hc : c ≠ '(')
    (hopens : Opens name (text ++ c :: rest)) : Opens name text :=
  hopens.imp (OpensDeclared.of_append hname hplain hc) (OpensAssigned.of_append hname hplain hc)

theorem Opens.paren_mem (hopens : Opens name text) : '(' ∈ text :=
  hopens.elim OpensDeclared.paren_mem OpensAssigned.paren_mem

theorem not_opens_nil : ¬ Opens name [] :=
  fun hopens => absurd hopens.paren_mem List.not_mem_nil

theorem not_opens_cons (hname : IsName name) (hplain : ¬ IsPlain c) (hc : c ≠ '(') :
    ¬ Opens name (c :: rest) :=
  fun hopens => not_opens_nil (@Opens.of_append name [] rest c hname hplain hc hopens)

end

/-! ## Bodies have no opening -/

theorem isWordPart_of_isSpace {c : Char} (hc : Text.isSpace c = true) : isWordPart c = false := by
  cases hpart : isWordPart c with
  | false => rfl
  | true => simp [isSpace_of_isWordPart hpart] at hc

/-- A word ends before white space. -/
theorem isWordPart_head_of_ne_nil {gap : List Char} (hgap : IsGap gap) (hne : gap ≠ [])
    (rest : List Char) (c : Char) (hc : (gap ++ rest).head? = some c) : isWordPart c = false := by
  cases gap with
  | nil => exact (hne rfl).elim
  | cons d gap =>
      cases hc
      exact isWordPart_of_isSpace (hgap c List.mem_cons_self)

/-- White space in front of a text changes nothing about a word ending before it. -/
theorem isWordPart_head_of_gap {gap rest : List Char} (hgap : IsGap gap)
    (hrest : ∀ c, rest.head? = some c → isWordPart c = false) (c : Char)
    (hc : (gap ++ rest).head? = some c) : isWordPart c = false := by
  by_cases hne : gap = []
  · subst hne
    exact hrest c hc
  · exact isWordPart_head_of_ne_nil hgap hne rest c hc

theorem Lexes.first_word {c : Char} {text : List Char} {tokens : List Token}
    (hstart : isWordStart c = true) (hlexes : Lexes (c :: text) tokens) :
    ∃ word others, tokens = .word word :: others := by
  have hpart := isWordPart_of_isWordStart hstart
  generalize htext : c :: text = whole at hlexes
  cases hlexes with
  | done => cases htext
  | space hspace hrest =>
      cases htext
      simp [isSpace_of_isWordPart hpart] at hspace
  | token htoken hrest =>
      cases htoken with
      | word hstart' hrun => exact ⟨_, _, rfl⟩
      | number hdigits hrun hvalue =>
          cases htext
          have hdigit := hdigits c List.mem_cons_self
          simp [isWordStart_of_isDigit hdigit] at hstart
      | text hquote hcontent =>
          cases htext
          rcases hquote with rfl | rfl <;> exact absurd hpart (by decide)
      | mark hmark hrest' =>
          cases htext
          simp [(of_punctuation hmark).1] at hpart

section

variable {name before back : List Char} {tokens : List Token} {statements : List Statement}

/-- Where the word `function` ends within a body, a word token ends. -/
theorem WritesBody.function_found {after : List Char} (hbody : WritesBody tokens statements)
    (hlexes : Lexes (before ++ ("function".toList ++ after)) tokens)
    (hafter : ∀ c, after.head? = some c → isWordPart c = false) :
    ∃ front start rest,
      tokens = front ++ .word (String.ofList (start ++ "function".toList)) :: rest ∧
      start <:+ before ∧ (∀ d ∈ start, isWordPart d = true) ∧ Lexes after rest := by
  obtain ⟨c, tail, hfunction, hstart⟩ := isName_function.start
  have hrun : Text.IsRun isWordPart (c :: tail) after :=
    ⟨hfunction ▸ isName_function.parts, hafter⟩
  rw [hfunction] at hlexes ⊢
  exact hlexes.word_found (fun content => hbody.text_eq_empty) hstart hrun

theorem not_opensDeclared_in_body (hname : IsName name) (hbody : WritesBody tokens statements)
    (hlexes : Lexes (before ++ back) tokens) : ¬ OpensDeclared name back := by
  rintro ⟨gap, gap', others, hne, hgap, _, rfl⟩
  simp only [List.append_assoc] at hlexes
  obtain ⟨front, start, rest, rfl, _, _, hrest⟩ :=
    hbody.function_found hlexes (isWordPart_head_of_ne_nil hgap hne _)
  obtain ⟨c, tail, rfl, hstart⟩ := hname.start
  obtain ⟨word, more, rfl⟩ := (hrest.of_gap hgap).first_word hstart
  -- Two words stand next to each other, and the first one is too long for a keyword.
  have hmeet := (List.isChain_append_cons_cons.mp hbody.isChain).2.1
  have hlength : 8 ≤ (String.ofList (start ++ "function".toList)).length := by
    have hfunction : "function".length = 8 := by decide +kernel
    simp [hfunction]
  rcases hmeet _ _ rfl rfl with hkeyword | hkeyword
  · rw [hkeyword] at hlength
    exact absurd hlength (by decide +kernel)
  · rw [hkeyword] at hlength
    exact absurd hlength (by decide +kernel)

private theorem not_part_suffix {start front back : List Char} {c : Char}
    (hsuffix : start <:+ front ++ c :: back) (hparts : ∀ d ∈ start, isWordPart d = true)
    (hback : ∀ d ∈ c :: back, isWordPart d = false) : start = [] := by
  by_contra hne
  obtain ⟨others, hothers⟩ := hsuffix
  have hlast := congrArg List.getLast? hothers
  rw [List.getLast?_append, List.getLast?_append, List.getLast?_eq_some_getLast hne,
    List.getLast?_eq_some_getLast (List.cons_ne_nil c back)] at hlast
  have hsame : start.getLast hne = (c :: back).getLast (List.cons_ne_nil c back) :=
    Option.some.inj hlast
  have hpart := hparts _ (List.getLast_mem hne)
  rw [hsame, hback _ (List.getLast_mem _)] at hpart
  cases hpart

theorem not_opensAssigned_in_body (hbody : WritesBody tokens statements)
    (hlexes : Lexes (before ++ back) tokens) : ¬ OpensAssigned name back := by
  rintro ⟨gap, gap', gap'', others, hgap, hgap', hgap'', rfl⟩
  have hsplit :
      before ++ (name ++ gap ++ '=' :: gap' ++ "function".toList ++ gap'' ++ '(' :: others) =
        (before ++ (name ++ gap) ++ '=' :: gap') ++
          ("function".toList ++ (gap'' ++ '(' :: others)) := by
    simp
  rw [hsplit] at hlexes
  have hafter : ∀ c, (gap'' ++ '(' :: others).head? = some c → isWordPart c = false :=
    isWordPart_head_of_gap hgap'' fun c hc => by cases hc; decide
  obtain ⟨front, start, rest, rfl, hsuffix, hparts, _⟩ := hbody.function_found hlexes hafter
  have hstart : start = [] := not_part_suffix hsuffix hparts fun d hd => by
    rcases List.mem_cons.mp hd with rfl | hd
    · decide
    · exact isWordPart_of_isSpace (hgap' d hd)
  subst hstart
  have htoken := hbody.isStatementToken (List.mem_append_right front List.mem_cons_self)
  rw [List.nil_append, String.ofList_toList] at htoken
  simp [IsStatementToken, IsExprToken, reservedWords] at htoken

theorem not_opens_in_body (hname : IsName name) (hbody : WritesBody tokens statements)
    (hlexes : Lexes (before ++ back) tokens) : ¬ Opens name back := by
  rintro (hdeclared | hassigned)
  · exact not_opensDeclared_in_body hname hbody hlexes hdeclared
  · exact not_opensAssigned_in_body hbody hlexes hassigned

end

end StreamLinks.Cipher
