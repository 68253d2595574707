import StreamLinks.Proofs.Cipher.Lexing
import StreamLinks.Proofs.Cipher.Parsing

/-!
# Printed text is read back

Tokens are written back as text, and so are trees.  The text of tokens is read as
these tokens wherever two neighbours do not run together, which is a matter of the
last character of the one and the first character of the other.  In an expression a
sign always stands between two words or numbers, so its tokens are written without
a single space; the text of its tree consists of the same pieces.
-/

namespace StreamLinks.Cipher

/-! ## The text of one token -/

theorem Token.toList_source_text (content : String) :
    (Token.text content).source.toList = '"' :: (content.toList ++ ['"']) := by
  simp [source]

theorem Token.lexes_source {token : Token} (hwritten : token.IsWritten)
    (hquote : ∀ content, token = .text content → '"' ∉ content.toList) :
    Lexes token.source.toList [token] := by
  have hmark : ∀ {c : Char} {mark : Token}, punctuation? c = some mark → Lexes [c] [mark] :=
    fun hmark => .token (.mark hmark (by simp)) .done
  cases token with
  | word name => exact Lexes.of_name hwritten
  | number value =>
      obtain ⟨n, hn, rfl⟩ := Text.exists_ofInt_of_nonneg hwritten
      rw [source, Text.writeInt64_ofInt hn]
      exact Lexes.of_toString hn
  | text content =>
      have hcontent : ∀ c ∈ content.toList, c ≠ '"' ∧ c ≠ '\\' := by
        rintro c hc
        constructor
        · rintro rfl
          exact hquote content rfl hc
        · rintro rfl
          exact hwritten hc
      have htext := @LexesToken.text '"' content.toList [] (.inl rfl) hcontent
      rw [String.ofList_toList] at htext
      rw [toList_source_text]
      exact .token htext .done
  | dot => exact hmark rfl
  | openParen => exact hmark rfl
  | closeParen => exact hmark rfl
  | openBracket => exact hmark rfl
  | closeBracket => exact hmark rfl
  | comma => exact hmark rfl
  | percent => exact hmark rfl
  | assign => exact hmark rfl
  | semicolon => exact hmark rfl

/-! ## The text of neighbours -/

/-- Written without a space between them, the two tokens run together. -/
def Token.Joins (left right : Token) : Prop :=
  (left.IsBare ∧ right.IsBare) ∨ ((left = .assign ∨ left = .percent) ∧ right = .assign)

/-- The first and the last character of a token's text tell what it can join. -/
structure Token.HasEdges (token : Token) (first last : Char) : Prop where
  head : token.source.toList.head? = some first
  getLast : token.source.toList.getLast? = some last
  first_part : isWordPart first = true ↔ token.IsBare
  last_part : isWordPart last = true ↔ token.IsBare
  first_equals : first = '=' ↔ token = .assign
  last_operator : last = '=' ∨ last = '%' ↔ token = .assign ∨ token = .percent

theorem Token.exists_edges_of_isBare {token : Token} (hbare : token.IsBare)
    (hne : token.source.toList ≠ [])
    (hparts : ∀ c ∈ token.source.toList, isWordPart c = true) :
    ∃ first last, token.HasEdges first last := by
  have hfirst := hparts _ (List.head_mem hne)
  have hlast := hparts _ (List.getLast_mem hne)
  have hassign : token ≠ .assign := by
    rintro rfl
    exact hbare
  have hpercent : token ≠ .percent := by
    rintro rfl
    exact hbare
  refine ⟨_, _, List.head?_eq_some_head hne, List.getLast?_eq_some_getLast hne,
    iff_of_true hfirst hbare, iff_of_true hlast hbare, iff_of_false ?_ hassign,
    iff_of_false ?_ (not_or.mpr ⟨hassign, hpercent⟩)⟩
  · intro hequals
    rw [hequals] at hfirst
    exact absurd hfirst (by decide)
  · rintro (hequals | hpercent)
    · rw [hequals] at hlast
      exact absurd hlast (by decide)
    · rw [hpercent] at hlast
      exact absurd hlast (by decide)

theorem Token.exists_edges {token : Token} (hwritten : token.IsWritten) :
    ∃ first last, token.HasEdges first last := by
  cases token with
  | word name =>
      obtain ⟨c, tail, hsplit, _⟩ := hwritten.start
      exact exists_edges_of_isBare trivial (by simp [source, hsplit]) hwritten.parts
  | number value =>
      obtain ⟨n, hn, rfl⟩ := Text.exists_ofInt_of_nonneg hwritten
      have hsource : (Token.number (Int64.ofInt n)).source = toString n := Text.writeInt64_ofInt hn
      refine exists_edges_of_isBare trivial (by simp [hsource]) ?_
      intro c hc
      rw [hsource] at hc
      exact isWordPart_of_isDigit (Text.isDigit_of_mem_toString hc)
  | text content =>
      have hhead : (Token.text content).source.toList.head? = some '"' := by
        rw [toList_source_text, List.head?_cons]
      have hlast : (Token.text content).source.toList.getLast? = some '"' := by
        rw [toList_source_text, ← List.cons_append, List.getLast?_concat]
      have hpart : isWordPart '"' = true ↔ (Token.text content).IsBare :=
        iff_of_false (by decide) not_false
      exact ⟨'"', '"', hhead, hlast, hpart, hpart, by simp, by simp⟩
  | dot | openParen | closeParen | openBracket | closeBracket | comma | percent | assign
  | semicolon =>
      exact ⟨_, _, rfl, rfl, by decide, by decide, by decide, by decide⟩

theorem Token.meet_source {left right : Token} (hleft : left.IsWritten)
    (hright : right.IsWritten) :
    Meet left.source.toList right.source.toList ↔ ¬ left.Joins right := by
  obtain ⟨_, last, hlast⟩ := exists_edges hleft
  obtain ⟨first, _, hfirst⟩ := exists_edges hright
  have hjoins : Cipher.Joins last first ↔ left.Joins right := by
    rw [Cipher.Joins, hlast.last_part, hfirst.first_part, hlast.last_operator,
      hfirst.first_equals, Token.Joins]
  rw [← hjoins]
  constructor
  · intro hmeet
    exact hmeet last first hlast.getLast hfirst.head
  · intro hapart last' first' hlast' hfirst'
    rw [hlast.getLast] at hlast'
    rw [hfirst.head] at hfirst'
    cases hlast'
    cases hfirst'
    exact hapart

/-! ## The text of all tokens -/

/-- A space is written where the two tokens would run together. -/
def Token.StaysApart (left right : Token) : Prop :=
  left.Joins right → left.gap right = " "

theorem Token.gap_eq (left right : Token) : left.gap right = "" ∨ left.gap right = " " := by
  unfold gap
  split
  · exact .inr rfl
  · exact .inr rfl
  · exact .inl rfl

theorem Token.lexes_source_gap {left : Token} (right : Token)
    (hleft : Lexes left.source.toList [left]) :
    Lexes (left.source ++ left.gap right).toList [left] := by
  rw [String.toList_append]
  rcases gap_eq left right with hgap | hgap
  · simpa [hgap] using hleft
  · have hspace : Lexes [' '] [] := .space (by decide) .done
    have hmeet := @meet_of_first [' '] ' ' rfl (by decide) (by decide) left.source.toList
    simpa [hgap] using hleft.append hspace hmeet

theorem Token.StaysApart.meet {left right : Token} (hapart : left.StaysApart right)
    (hleft : left.IsWritten) (hright : right.IsWritten) :
    Meet (left.source ++ left.gap right).toList right.source.toList := by
  rw [String.toList_append]
  rcases gap_eq left right with hgap | hgap
  · have hfree : ¬ left.Joins right := by
      intro hjoins
      have hspace := hapart hjoins
      rw [hgap] at hspace
      exact absurd hspace (by decide)
    simpa [hgap] using (meet_source hleft hright).mpr hfree
  · have hlast : (left.source.toList ++ (left.gap right).toList).getLast? = some ' ' := by
      simp [hgap]
    exact meet_of_last hlast (by decide) (by decide) _

theorem Token.source_ne_nil {token : Token} (hwritten : token.IsWritten) :
    token.source.toList ≠ [] := by
  obtain ⟨first, last, hedges⟩ := exists_edges hwritten
  intro hempty
  have hhead := hedges.head
  rw [hempty] at hhead
  cases hhead

theorem head?_render {token : Token} (hne : token.source.toList ≠ []) (tokens : List Token) :
    (render (token :: tokens)).toList.head? = token.source.toList.head? := by
  cases tokens with
  | nil => rfl
  | cons next tokens =>
      simp only [render, String.toList_append, List.append_assoc]
      exact List.head?_append_of_ne_nil _ hne

/-- The text of tokens is read as these tokens when a space stands wherever two
neighbours would run together. -/
theorem lexes_render {tokens : List Token} (hwritten : ∀ token ∈ tokens, token.IsWritten)
    (hquote : ∀ content, .text content ∈ tokens → '"' ∉ content.toList)
    (hchain : tokens.IsChain Token.StaysApart) : Lexes (render tokens).toList tokens := by
  have hsource : ∀ token ∈ tokens, Lexes token.source.toList [token] := by
    intro token hmem
    refine Token.lexes_source (hwritten token hmem) ?_
    rintro content rfl
    exact hquote content hmem
  fun_induction render tokens with
  | case1 => exact .done
  | case2 token => exact hsource token List.mem_cons_self
  | case3 left right rest ih =>
      obtain ⟨hleft, hothers⟩ := List.forall_mem_cons.mp hwritten
      obtain ⟨hapart, hchain⟩ := List.isChain_cons_cons.mp hchain
      have hright := hothers right List.mem_cons_self
      have hrest := ih hothers (fun content hmem => hquote content (List.mem_cons_of_mem _ hmem))
        hchain (fun token hmem => hsource token (List.mem_cons_of_mem _ hmem))
      have hfirst := Token.lexes_source_gap right (hsource left List.mem_cons_self)
      have hhead := head?_render (Token.source_ne_nil hright) rest
      have hmeet := (hapart.meet hleft hright).of_head hhead
      rw [String.toList_append]
      exact hfirst.append hrest hmeet

/-! ## The text of a tree -/

/-- The texts of the tokens one after the other. -/
def spelled (tokens : List Token) : List Char :=
  tokens.flatMap fun token => token.source.toList

@[simp] theorem spelled_nil : spelled [] = [] := rfl

@[simp] theorem spelled_cons (token : Token) (tokens : List Token) :
    spelled (token :: tokens) = token.source.toList ++ spelled tokens := rfl

@[simp] theorem spelled_append (tokens tokens' : List Token) :
    spelled (tokens ++ tokens') = spelled tokens ++ spelled tokens' :=
  List.flatMap_append

theorem WritesArg.toList_source {token : Token} {arg : Arg} (harg : WritesArg token arg) :
    arg.source.toList = token.source.toList := by
  cases harg with
  | literal value => rfl
  | name hname => rfl

theorem WritesArgsFrom.toList_source {tokens : List Token} {args : List Arg}
    (hargs : WritesArgsFrom tokens args) :
    (",".intercalate (args.map Arg.source)).toList = spelled tokens := by
  induction hargs with
  | last harg => simp [harg.toList_source]
  | @more token arg tokens args harg hargs ih =>
      rw [String.toList_intercalate, List.map_map] at ih ⊢
      cases args with
      | nil => cases hargs
      | cons next others =>
          rw [List.map_cons, List.map_cons, List.intercalate_cons_cons, ← List.map_cons, ih]
          simp [harg.toList_source, Token.source]

theorem WritesArgs.toList_source {tokens : List Token} {args : List Arg}
    (hargs : WritesArgs tokens args) :
    (",".intercalate (args.map Arg.source)).toList = spelled tokens := by
  cases hargs with
  | none => rfl
  | some hargs => exact hargs.toList_source

mutual

theorem WritesExpr.toList_source {brackets : Nat} {tokens : List Token} {expr : Expr} :
    WritesExpr brackets tokens expr → expr.source.toList = spelled tokens
  | .chain hchain _ => hchain.toList_source

theorem WritesChain.toList_source {brackets operators : Nat} {tokens : List Token}
    {expr : Expr} :
    WritesChain brackets operators tokens expr → expr.source.toList = spelled tokens
  | .operand hoperand => hoperand.toList_source
  | .modulo hleft hright => by
      have hl := hleft.toList_source
      have hr := hright.toList_source
      simp [Expr.source, Token.source, hl, hr]

theorem WritesOperand.toList_source {brackets : Nat} {tokens : List Token} {expr : Expr} :
    WritesOperand brackets tokens expr → expr.source.toList = spelled tokens
  | .literal _ => by simp [Expr.source, Token.source]
  | .name _ => by simp [Expr.source, Token.source]
  | .split _ => by simp [Expr.source, Token.source]
  | .reverse _ => by simp [Expr.source, Token.source]
  | .join _ => by simp [Expr.source, Token.source]
  | .length _ => by simp [Expr.source, Token.source]
  | .slice _ hstart => by
      have hinner := hstart.toList_source
      simp [Expr.source, Token.source, hinner]
  | .index _ hposition => by
      have hinner := hposition.toList_source
      simp [Expr.source, Token.source, hinner]
  | .call _ hargs => by
      have hinner := hargs.toList_source
      simp [Expr.source, Token.source, hinner]

end

theorem Token.gap_of_apart {left right : Token} (hapart : Apart left right) :
    left.gap right = "" := by
  unfold gap
  split
  · exact (hapart ⟨trivial, trivial⟩).elim
  · exact (hapart ⟨trivial, trivial⟩).elim
  · rfl

theorem toList_render {tokens : List Token} (hchain : tokens.IsChain Apart) :
    (render tokens).toList = spelled tokens := by
  fun_induction render tokens with
  | case1 => rfl
  | case2 token => simp
  | case3 left right rest ih =>
      obtain ⟨hapart, hothers⟩ := List.isChain_cons_cons.mp hchain
      simp [Token.gap_of_apart hapart, ih hothers]

theorem WritesExpr.source_eq {brackets : Nat} {tokens : List Token} {expr : Expr}
    (hwrites : WritesExpr brackets tokens expr) : expr.source = render tokens := by
  rw [← String.toList_inj, hwrites.toList_source, toList_render hwrites.isChain]

/-- No sign of an expression joins the next one. -/
theorem WritesExpr.staysApart {brackets : Nat} {tokens : List Token} {expr : Expr}
    (hwrites : WritesExpr brackets tokens expr) : tokens.IsChain Token.StaysApart := by
  have hassign : .assign ∉ tokens := fun hmem => hwrites.isExprToken _ hmem
  refine hwrites.isChain.imp_of_mem_imp ?_
  rintro left right _ hright hapart (hbare | ⟨_, rfl⟩)
  · exact (hapart hbare).elim
  · exact (hassign hright).elim

theorem WritesExpr.tokenize_of_written {tokens : List Token} {expr : Expr}
    (hwrites : WritesExpr 0 tokens expr) (hwritten : ∀ token ∈ tokens, token.IsWritten) :
    tokenize (render tokens) = .ok tokens := by
  have hquote : ∀ content, .text content ∈ tokens → '"' ∉ content.toList := by
    intro content hmem
    have hempty : content = "" := hwrites.isExprToken _ hmem
    simp [hempty]
  exact tokenize_eq_ok.mpr (lexes_render hwritten hquote hwrites.staysApart)

theorem WritesExpr.tokenize_render {source : String} {tokens : List Token} {expr : Expr}
    (htokens : tokenize source = .ok tokens) (hwrites : WritesExpr 0 tokens expr) :
    tokenize (render tokens) = .ok tokens :=
  hwrites.tokenize_of_written (tokenize_eq_ok.mp htokens).isWritten

/-- What is printed of an expression is the text of its tokens, and is read as the same
expression; so two texts give one tree exactly when they have the same tokens. -/
theorem parsing_agrees_with_printing {source : String} {expr : Expr}
    (hparse : parseExpression source = .ok expr) :
    (∃ tokens, tokenize source = .ok tokens ∧ expr.source = render tokens) ∧
    parseExpression expr.source = .ok expr ∧
    ∀ source' expr', parseExpression source' = .ok expr' →
      (expr = expr' ↔ tokenize source = tokenize source') := by
  obtain ⟨tokens, htokens, hwrites⟩ := parseExpression_eq_ok.mp hparse
  have hprinted := hwrites.tokenize_render htokens
  rw [← hwrites.source_eq] at hprinted
  refine ⟨⟨tokens, htokens, hwrites.source_eq⟩, ?_, ?_⟩
  · exact parseExpression_eq_ok.mpr ⟨tokens, hprinted, hwrites⟩
  · intro source' expr' hparse'
    obtain ⟨tokens', htokens', hwrites'⟩ := parseExpression_eq_ok.mp hparse'
    have hprinted' := hwrites'.tokenize_render htokens'
    rw [← hwrites'.source_eq] at hprinted'
    constructor
    · rintro rfl
      rw [hprinted] at hprinted'
      rw [htokens, htokens', hprinted']
    · intro hsame
      rw [parseExpression, hsame, ← parseExpression, hparse'] at hparse
      exact (Except.ok.inj hparse).symm

theorem parsing_agrees_with_printing_of_index :
    parseExpression "a [b % a.length]" =
        .ok (.index "a" (.modulo (.variable "b") (.length "a"))) ∧
      parseExpression "a[b%a.length]" =
        .ok (.index "a" (.modulo (.variable "b") (.length "a"))) ∧
      tokenize "a [b % a.length]" = tokenize "a[b%a.length]" := by
  have hparse : parseExpression "a [b % a.length]" =
      .ok (.index "a" (.modulo (.variable "b") (.length "a"))) := by
    decide +kernel
  obtain ⟨_, hprinted, hsame⟩ := parsing_agrees_with_printing hparse
  exact ⟨hparse, hprinted, (hsame _ _ hprinted).mp rfl⟩

end StreamLinks.Cipher
