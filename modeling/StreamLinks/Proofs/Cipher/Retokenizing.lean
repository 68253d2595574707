import StreamLinks.Proofs.Cipher.Rendering

/-!
# Tokens that survive being printed

Printed tokens are read back as they were unless a text holds the quote that it is printed with,
or a token runs into the next one.  That nothing else goes wrong is a matter of joining texts.
That each of these flaws does show, whatever follows, is seen by length: no text with given tokens
is shorter than the printed one.  So if the printed text is read as its tokens, the first token
takes exactly its own part of it, for otherwise too little would be left for the others.
-/

namespace StreamLinks.Cipher

/-- Printed next to each other, the two tokens are read as something else. -/
def Token.RunsInto (left right : Token) : Prop :=
  ((∃ value, left = .number value) ∧ right.IsBare) ∨
    ((left = .assign ∨ left = .percent) ∧ right = .assign)

@[simp] theorem Token.not_runsInto_of_word (name : String) (right : Token) :
    ¬ (Token.word name).RunsInto right := by
  simp [RunsInto]

@[simp] theorem Token.not_runsInto_of_openBracket (right : Token) :
    ¬ Token.openBracket.RunsInto right := by
  simp [RunsInto]

@[simp] theorem Token.not_runsInto_of_closeBracket (right : Token) :
    ¬ Token.closeBracket.RunsInto right := by
  simp [RunsInto]

@[simp] theorem Token.not_runsInto_closeBracket (left : Token) :
    ¬ left.RunsInto .closeBracket := by
  simp [RunsInto, IsBare]

theorem Token.isBare_iff {token : Token} :
    token.IsBare ↔ (∃ name, token = .word name) ∨ ∃ value, token = .number value := by
  cases token <;> simp [IsBare]

/-- No text holds a double quote, and no token runs into the next one. -/
structure AreLegible (tokens : List Token) : Prop where
  quotes : ∀ content, .text content ∈ tokens → '"' ∉ content.toList
  neighbours : tokens.IsChain fun left right => ¬ left.RunsInto right

/-- The text of tokens that are printed behind the token `left`. -/
def textBehind (left : Token) : List Token → List Char
  | [] => []
  | right :: rest => (left.gap right).toList ++ (render (right :: rest)).toList

variable {text rest : List Char} {left right token : Token} {tokens : List Token}

theorem toList_render_cons (token : Token) (tokens : List Token) :
    (render (token :: tokens)).toList = token.source.toList ++ textBehind token tokens := by
  cases tokens with
  | nil => simp [render, textBehind]
  | cons right others => simp [render, textBehind]

/-! ## Where a space is printed -/

theorem Token.gap_of_space (hgap : left.gap right = " ") :
    (∃ name, left = .word name) ∧ right.IsBare := by
  unfold gap at hgap
  split at hgap
  · exact ⟨⟨_, rfl⟩, trivial⟩
  · exact ⟨⟨_, rfl⟩, trivial⟩
  · exact absurd hgap (by decide)

theorem Token.gap_of_word (name : String) (hright : right.IsBare) :
    (Token.word name).gap right = " " := by
  cases right with
  | word name' => rfl
  | number value => rfl
  | _ => exact hright.elim

/-- A space is printed wherever two tokens would run together, unless the first is no word. -/
theorem Token.staysApart_iff : left.StaysApart right ↔ ¬ left.RunsInto right := by
  constructor
  · rintro hapart (⟨⟨value, rfl⟩, hright⟩ | hoperator)
    · obtain ⟨⟨name, hname⟩, -⟩ := gap_of_space (hapart (.inl ⟨trivial, hright⟩))
      cases hname
    · obtain ⟨⟨name, rfl⟩, -⟩ := gap_of_space (hapart (.inr hoperator))
      rcases hoperator.1 with hname | hname <;> cases hname
  · rintro hfree (⟨hleft, hright⟩ | hoperator)
    · cases left with
      | word name => exact gap_of_word name hright
      | number value => exact absurd (.inl ⟨⟨value, rfl⟩, hright⟩) hfree
      | _ => exact hleft.elim
    · exact absurd (.inr hoperator) hfree

/-! ## What one token takes of a text -/

theorem toList_source_of_punctuation {c : Char} (hmark : punctuation? c = some token) :
    token.source.toList = [c] := by
  unfold punctuation? at hmark
  split at hmark <;> cases hmark <;> rfl

theorem not_isBare_of_punctuation {c : Char} (hmark : punctuation? c = some token) :
    ¬ token.IsBare := by
  unfold punctuation? at hmark
  split at hmark <;> cases hmark <;> exact not_false

theorem LexesToken.length_source_le (htoken : LexesToken text token rest) :
    token.source.toList.length + rest.length ≤ text.length := by
  cases htoken with
  | word hstart hrun => rw [Token.source, String.toList_ofList, List.length_append]
  | number hdigits hrun hvalue =>
      have hshort := Text.length_writeInt64_le hdigits hvalue
      rw [Token.source, List.length_append]
      omega
  | text hquote hcontent =>
      simp [Token.source]
      omega
  | mark hmark hrest =>
      rw [toList_source_of_punctuation hmark, List.length_singleton, List.length_cons, Nat.add_comm]

/-- A word or a number ends where no word goes on. -/
theorem LexesToken.stops (htoken : LexesToken text token rest) (hbare : token.IsBare) :
    ∀ c, rest.head? = some c → isWordPart c = false := by
  cases htoken with
  | word hstart hrun => exact hrun.stops
  | number hdigits hrun hvalue => exact hrun.stops
  | text hquote hcontent => exact hbare.elim
  | mark hmark hrest => exact absurd hbare (not_isBare_of_punctuation hmark)

theorem LexesToken.stops_operator (htoken : LexesToken text token rest)
    (hoperator : token = .assign ∨ token = .percent) : rest.head? ≠ some '=' := by
  cases htoken with
  | word hstart hrun => simp at hoperator
  | number hdigits hrun hvalue => simp at hoperator
  | text hquote hcontent => simp at hoperator
  | mark hmark hrest => exact hrest hoperator

theorem LexesToken.head_of_isBare (htoken : LexesToken text token rest) (hbare : token.IsBare) :
    ∃ c, text.head? = some c ∧ isWordPart c = true := by
  cases htoken with
  | @word c tail _ hstart hrun => exact ⟨c, rfl, isWordPart_of_isWordStart hstart⟩
  | @number c tail _ value hdigits hrun hvalue =>
      exact ⟨c, rfl, isWordPart_of_isDigit (hdigits c List.mem_cons_self)⟩
  | text hquote hcontent => exact hbare.elim
  | mark hmark hrest => exact absurd hbare (not_isBare_of_punctuation hmark)

/-! ## The printed text is the shortest -/

theorem length_textBehind_le (left : Token) (tokens : List Token) :
    (textBehind left tokens).length ≤ (render tokens).toList.length + 1 := by
  cases tokens with
  | nil => simp [textBehind]
  | cons right others =>
      rw [textBehind, List.length_append]
      rcases Token.gap_eq left right with hgap | hgap
      · simp [hgap]
      · simp [hgap, Nat.add_comm]

theorem length_render_le_textBehind (left : Token) (tokens : List Token) :
    (render tokens).toList.length ≤ (textBehind left tokens).length := by
  cases tokens with
  | nil => simp [render]
  | cons right others => simp [textBehind]

/-- Behind a token no text with given tokens is shorter than the printed one, where the space that
keeps them apart counts as printed. -/
theorem Lexes.length_textBehind_le (hlexes : Lexes text tokens)
    (hstops : left.IsBare → ∀ c, text.head? = some c → isWordPart c = false) :
    (textBehind left tokens).length ≤ text.length := by
  induction hlexes generalizing left with
  | done => simp [textBehind]
  | @space c rest tokens hspace _ ih =>
      have hspaced := Cipher.length_textBehind_le left tokens
      have hprinted := length_render_le_textBehind .semicolon tokens
      have hrest : (textBehind .semicolon tokens).length ≤ rest.length := ih False.elim
      rw [List.length_cons]
      omega
  | @token text rest token tokens htoken _ ih =>
      have hsource := htoken.length_source_le
      have hrest := ih htoken.stops
      have hgap : left.gap token = "" := by
        rcases Token.gap_eq left token with hgap | hgap
        · exact hgap
        · obtain ⟨⟨name, rfl⟩, hbare⟩ := Token.gap_of_space hgap
          obtain ⟨c, hhead, hpart⟩ := htoken.head_of_isBare hbare
          simp [hstops trivial c hhead] at hpart
      rw [textBehind, hgap, toList_render_cons, List.length_append, List.length_append]
      simp only [String.toList_empty, List.length_nil]
      omega

/-! ## Reading what is printed -/

theorem Lexes.of_textBehind (hlexes : Lexes (textBehind left tokens) tokens) :
    Lexes (render tokens).toList tokens := by
  cases tokens with
  | nil => exact .done
  | cons right others =>
      rw [textBehind] at hlexes
      refine hlexes.of_gap ?_
      rcases Token.gap_eq left right with hgap | hgap
      · rw [hgap]
        exact Text.isGap_nil
      · rw [hgap]
        exact Text.isGap_space

/-- Read as it was printed, the first token takes its own part of the text and leaves the rest to
the others. -/
theorem Lexes.of_render_cons (hlexes : Lexes (render (token :: tokens)).toList (token :: tokens)) :
    LexesToken (token.source.toList ++ textBehind token tokens) token (textBehind token tokens) ∧
      Lexes (textBehind token tokens) tokens := by
  rw [toList_render_cons] at hlexes
  obtain ⟨gap, front, rest, hsplit, htoken, hrest⟩ := hlexes.exists_first
  have hsource := htoken.length_source_le
  have hothers := hrest.length_textBehind_le htoken.stops
  have hwhole := congrArg List.length hsplit
  rw [List.length_append, List.length_append] at hwhole
  -- The token needs its own part and the others need theirs, so nothing is left for a gap.
  obtain rfl : gap = [] := List.eq_nil_of_length_eq_zero (by omega)
  rw [List.nil_append] at hsplit
  obtain ⟨taken, htaken⟩ := htoken.taken
  have hsame : rest = textBehind token tokens :=
    (List.append_inj_right' (hsplit.trans htaken) (by omega)).symm
  rw [hsplit, ← hsame]
  exact ⟨htoken, hrest⟩

theorem quote_not_mem_of_lexes {content : String}
    (htoken : LexesToken ((Token.text content).source.toList ++ rest) (.text content) rest) :
    '"' ∉ content.toList := by
  rw [Token.toList_source_text, List.cons_append] at htoken
  generalize hwhole : '"' :: (content.toList ++ ['"'] ++ rest) = text at htoken
  generalize hkind : Token.text content = token at htoken
  cases htoken with
  | word hstart hrun => cases hkind
  | number hdigits hrun hvalue => cases hkind
  | mark hmark hrest =>
      have hsource := toList_source_of_punctuation hmark
      rw [← hkind, Token.toList_source_text] at hsource
      simp at hsource
  | @text quote inner _ hquote hcontent =>
      cases hkind
      obtain ⟨rfl, -⟩ := List.cons.inj hwhole
      intro hmem
      rw [String.toList_ofList] at hmem
      exact (hcontent _ hmem).1 rfl

theorem not_runsInto_of_lexes {others : List Token} (hright : right.IsWritten)
    (htoken : LexesToken text left (textBehind left (right :: others))) :
    ¬ left.RunsInto right := by
  intro hruns
  have hgap : left.gap right = "" := by
    rcases Token.gap_eq left right with hgap | hgap
    · exact hgap
    · obtain ⟨⟨name, rfl⟩, -⟩ := Token.gap_of_space hgap
      rcases hruns with ⟨⟨value, hname⟩, -⟩ | ⟨hname | hname, -⟩ <;> cases hname
  obtain ⟨first, last, hedges⟩ := Token.exists_edges hright
  have hhead : (textBehind left (right :: others)).head? = some first := by
    rw [textBehind, hgap]
    exact (head?_render (Token.source_ne_nil hright) others).trans hedges.head
  rcases hruns with ⟨⟨value, rfl⟩, hbare⟩ | ⟨hoperator, hassign⟩
  · have hpart := hedges.first_part.mpr hbare
    simp [htoken.stops trivial first hhead] at hpart
  · rw [hedges.first_equals.mpr hassign] at hhead
    exact htoken.stops_operator hoperator hhead

theorem areLegible_of_lexes (hwritten : ∀ token ∈ tokens, token.IsWritten)
    (hlexes : Lexes (render tokens).toList tokens) : AreLegible tokens := by
  induction tokens with
  | nil => exact ⟨by simp, .nil⟩
  | cons token tokens ih =>
      obtain ⟨htoken, hothers⟩ := hlexes.of_render_cons
      obtain ⟨-, hwritten⟩ := List.forall_mem_cons.mp hwritten
      obtain ⟨hquotes, hneighbours⟩ := ih hwritten hothers.of_textBehind
      constructor
      · intro content hmem
        rcases List.mem_cons.mp hmem with rfl | hmem
        · exact quote_not_mem_of_lexes htoken
        · exact hquotes content hmem
      · cases tokens with
        | nil => exact List.isChain_singleton token
        | cons right others =>
            have hright := hwritten right List.mem_cons_self
            exact List.isChain_cons_cons.mpr ⟨not_runsInto_of_lexes hright htoken, hneighbours⟩

theorem AreLegible.lexes_render (hlegible : AreLegible tokens)
    (hwritten : ∀ token ∈ tokens, token.IsWritten) : Lexes (render tokens).toList tokens :=
  Cipher.lexes_render hwritten hlegible.quotes
    (hlegible.neighbours.imp fun _ _ => Token.staysApart_iff.mpr)

theorem tokenize_render_eq_ok_iff (hwritten : ∀ token ∈ tokens, token.IsWritten) :
    tokenize (render tokens) = .ok tokens ↔ AreLegible tokens := by
  rw [tokenize_eq_ok]
  exact ⟨areLegible_of_lexes hwritten, fun hlegible => hlegible.lexes_render hwritten⟩

theorem areLegible_iff :
    AreLegible tokens ↔
      (∀ content, .text content ∈ tokens → '"' ∉ content.toList) ∧
      ∀ front back left right, tokens = front ++ left :: right :: back →
        ¬ left.RunsInto right := by
  constructor
  · rintro ⟨hquotes, hneighbours⟩
    refine ⟨hquotes, fun front back left right hsplit => ?_⟩
    exact List.isChain_iff_forall_rel_of_append_cons_cons.mp hneighbours hsplit
  · rintro ⟨hquotes, hneighbours⟩
    refine ⟨hquotes, List.isChain_iff_forall_rel_of_append_cons_cons.mpr ?_⟩
    exact fun left right front back => hneighbours front back left right

/-! ## Expressions and statements -/

theorem WritesExpr.areLegible {brackets : Nat} {expr : Expr}
    (hwrites : WritesExpr brackets tokens expr) : AreLegible tokens where
  quotes := by
    intro content hmem
    have hempty : content = "" := hwrites.isExprToken _ hmem
    simp [hempty]
  neighbours := hwrites.staysApart.imp fun _ _ => Token.staysApart_iff.mp

/-- An assignment sign is not followed by another one. -/
theorem WritesExpr.isChain_assign {expr : Expr} (hwrites : WritesExpr 0 tokens expr) :
    (Token.assign :: tokens).IsChain fun left right => ¬ left.RunsInto right := by
  refine List.isChain_cons.mpr ⟨?_, hwrites.areLegible.neighbours⟩
  rintro next hnext (⟨⟨value, hnumber⟩, -⟩ | ⟨-, rfl⟩)
  · cases hnumber
  · exact hwrites.isExprToken _ (List.mem_of_mem_head? hnext)

theorem WritesStatement.areLegible {statement : Statement}
    (hwrites : WritesStatement tokens statement) : AreLegible tokens where
  quotes := by
    intro content hmem
    have htoken := hwrites.isStatementToken _ hmem
    simp only [IsStatementToken, IsExprToken, reduceCtorEq, false_or] at htoken
    simp [htoken]
  neighbours := by
    cases hwrites with
    | ret hvalue => simp [List.isChain_cons, hvalue.areLegible.neighbours]
    | assign hkeyword htarget hvalue =>
        rcases hkeyword with rfl | rfl <;> simp [List.isChain_cons_cons, hvalue.isChain_assign]
    | assignAt hkeyword htarget hposition hvalue =>
        rcases hkeyword with rfl | rfl <;>
          simp [List.isChain_append, List.isChain_cons,
            hposition.areLegible.neighbours, hvalue.isChain_assign]

/-- Printed tokens of a text are read back exactly when no quoted text among them holds a double
quote and none of them runs into the next one.  The tokens of an expression or a statement are
always read back. -/
theorem printed_tokens_read_back {source : String} (htokens : tokenize source = .ok tokens) :
    (tokenize (render tokens) = .ok tokens ↔
      (∀ content, .text content ∈ tokens → '"' ∉ content.toList) ∧
      (∀ front back left right, tokens = front ++ left :: right :: back →
        ¬ ((∃ value, left = .number value) ∧
            ((∃ name, right = .word name) ∨ ∃ value, right = .number value)) ∧
        ¬ ((left = .assign ∨ left = .percent) ∧ right = .assign))) ∧
    (∀ expr, parseExpression source = .ok expr → tokenize (render tokens) = .ok tokens) ∧
    (∀ statement, parseStatement source = .ok statement →
      tokenize (render tokens) = .ok tokens) := by
  have hlexes := tokenize_eq_ok.mp htokens
  have hlegible := tokenize_render_eq_ok_iff hlexes.isWritten
  refine ⟨?_, ?_, ?_⟩
  · rw [hlegible, areLegible_iff]
    simp only [Token.RunsInto, Token.isBare_iff, not_or]
  · intro expr hparse
    obtain ⟨others, hothers, hwrites⟩ := parseExpression_eq_ok.mp hparse
    obtain rfl : tokens = others := Except.ok.inj (htokens.symm.trans hothers)
    exact hlegible.mpr hwrites.areLegible
  · intro statement hparse
    obtain ⟨others, hothers, hwrites⟩ := parseStatement_eq_ok.mp hparse
    obtain rfl : tokens = others := Except.ok.inj (htokens.symm.trans hothers)
    exact hlegible.mpr hwrites.areLegible

/-- The zeros before a number and the quotes around a text are not printed as they were, which
does no harm.  The space behind a number is missed. -/
theorem printed_tokens_read_back_of_zeros :
    let statement : List Token :=
      [.word "a", .openBracket, .number 7, .closeBracket, .assign, .word "b", .dot, .word "split",
        .openParen, .text "", .closeParen]
    let neighbours : List Token := [.number 7, .word "a"]
    tokenize "a[ 007 ]=b.split('')" = .ok statement ∧
      tokenize (render statement) = .ok statement ∧
      tokenize "007 a" = .ok neighbours ∧ tokenize (render neighbours) ≠ .ok neighbours := by
  intro statement neighbours
  have hstatement : tokenize "a[ 007 ]=b.split('')" = .ok statement := by decide +kernel
  have hneighbours : tokenize "007 a" = .ok neighbours := by decide +kernel
  obtain ⟨-, -, hparsed⟩ := printed_tokens_read_back hstatement
  obtain ⟨hread, -, -⟩ := printed_tokens_read_back hneighbours
  refine ⟨hstatement, hparsed (.assignAt "a" (.literal 7) (.split "b")) ?_, hneighbours, ?_⟩
  · decide +kernel
  · intro hback
    obtain ⟨-, hapart⟩ := hread.mp hback
    exact (hapart [] [] _ _ rfl).1 ⟨⟨7, rfl⟩, .inl ⟨"a", rfl⟩⟩

end StreamLinks.Cipher
