import StreamLinks.Cipher.Script
import StreamLinks.Proofs.Cipher.Discipline
import StreamLinks.Proofs.Cipher.Lexing
import StreamLinks.Proofs.Cipher.Parsing
import StreamLinks.Proofs.Text.Pieces

/-!
# The text of a function body

A body that is read as statements consists of statement tokens and semicolons.
Two facts about such bodies carry over to everything that is said about whole
scripts: the integers that a function mentions stand in its body as numbers and
so are never negative, and the word `function` never stands in a body, neither on
its own nor at the end of a word that another word follows.
-/

namespace StreamLinks.Cipher

/-! ## Integers -/

theorem WritesArg.number_mem {token : Token} {arg : Arg} (harg : WritesArg token arg)
    {n : Int64} (hn : n ∈ arg.literals) : token = .number n := by
  cases harg with
  | literal value => simpa [Arg.literals, eq_comm] using hn
  | name hname => simp [Arg.literals] at hn

theorem WritesArgsFrom.number_mem {tokens : List Token} {args : List Arg}
    (hargs : WritesArgsFrom tokens args) {n : Int64} (hn : n ∈ args.flatMap Arg.literals) :
    .number n ∈ tokens := by
  induction hargs with
  | last harg =>
      rw [List.flatMap_singleton] at hn
      simp [harg.number_mem hn]
  | more harg hargs ih =>
      rw [List.flatMap_cons, List.mem_append] at hn
      rcases hn with hn | hn
      · simp [harg.number_mem hn]
      · simp [ih hn]

theorem WritesArgs.number_mem {tokens : List Token} {args : List Arg}
    (hargs : WritesArgs tokens args) {n : Int64} (hn : n ∈ args.flatMap Arg.literals) :
    .number n ∈ tokens := by
  cases hargs with
  | none => simp at hn
  | some hargs => exact hargs.number_mem hn

mutual

theorem WritesExpr.number_mem {brackets : Nat} {tokens : List Token} {expr : Expr} :
    WritesExpr brackets tokens expr → ∀ n ∈ expr.literals, .number n ∈ tokens
  | .chain hchain _ => hchain.number_mem

theorem WritesChain.number_mem {brackets operators : Nat} {tokens : List Token}
    {expr : Expr} :
    WritesChain brackets operators tokens expr → ∀ n ∈ expr.literals, .number n ∈ tokens
  | .operand hoperand => hoperand.number_mem
  | .modulo hleft hright => by
      intro n hn
      rw [Expr.literals, List.mem_append] at hn
      rcases hn with hn | hn
      · simp [hleft.number_mem n hn]
      · simp [hright.number_mem n hn]

theorem WritesOperand.number_mem {brackets : Nat} {tokens : List Token} {expr : Expr} :
    WritesOperand brackets tokens expr → ∀ n ∈ expr.literals, .number n ∈ tokens
  | .literal _ => by simp [Expr.literals]
  | .name _ => by simp [Expr.literals]
  | .split _ => by simp [Expr.literals]
  | .reverse _ => by simp [Expr.literals]
  | .join _ => by simp [Expr.literals]
  | .length _ => by simp [Expr.literals]
  | .slice _ hstart => by
      intro n hn
      simp [hstart.number_mem n hn]
  | .index _ hposition => by
      intro n hn
      simp [hposition.number_mem n hn]
  | .call _ hargs => by
      intro n hn
      simp [hargs.number_mem hn]

end

theorem WritesStatement.number_mem {tokens : List Token} {statement : Statement}
    (hstatement : WritesStatement tokens statement) {n : Int64}
    (hn : n ∈ statement.literals) : .number n ∈ tokens := by
  cases hstatement with
  | ret hvalue => simp [hvalue.number_mem n hn]
  | assign hkeyword htarget hvalue => simp [hvalue.number_mem n hn]
  | assignAt hkeyword htarget hposition hvalue =>
      rw [Statement.literals, List.mem_append] at hn
      rcases hn with hn | hn
      · simp [hposition.number_mem n hn]
      · simp [hvalue.number_mem n hn]

/-! ## Statements between semicolons -/

/-- The tokens write statements with semicolons between them, and some of the
statements may be missing. -/
def WritesBody (tokens : List Token) (statements : List Statement) : Prop :=
  List.Forall₂ WritesStatement
    ((Text.splitWhere (· == Token.semicolon) tokens).filter (! ·.isEmpty)) statements

theorem parseBody_eq_ok {source : String} {statements : List Statement} :
    parseBody source = .ok statements ↔
      ∃ tokens, Lexes source.toList tokens ∧ WritesBody tokens statements := by
  simp only [parseBody, bind_eq_ok, mapM_eq_ok, statementOfTokens_eq_ok, tokenize_eq_ok,
    WritesBody]

theorem WritesStatement.ne_nil {tokens : List Token} {statement : Statement}
    (hstatement : WritesStatement tokens statement) : tokens ≠ [] := by
  cases hstatement <;> simp

theorem WritesStatement.no_separator {tokens : List Token} {statement : Statement}
    (hstatement : WritesStatement tokens statement) :
    ∀ token ∈ tokens, (token == Token.semicolon) = false := by
  intro token htoken
  rw [beq_eq_false_iff_ne]
  rintro rfl
  exact hstatement.semicolon_not_mem htoken

theorem writesBody_cons {tokens rest : List Token} {statement : Statement}
    {statements : List Statement} (hstatement : WritesStatement tokens statement)
    (hrest : WritesBody rest statements) :
    WritesBody (tokens ++ .semicolon :: rest) (statement :: statements) := by
  have hsplit := @Text.splitWhere_append_cons _ (· == Token.semicolon) tokens .semicolon
    hstatement.no_separator rfl rest
  unfold WritesBody
  rw [hsplit, List.filter_cons_of_pos (by simp [hstatement.ne_nil])]
  exact .cons hstatement hrest

/-- A body may start with a statement and its semicolon. -/
theorem parseBody_append {front rest : String} {tokens : List Token} {statement : Statement}
    {statements : List Statement} (hfront : Lexes front.toList (tokens ++ [.semicolon]))
    (hstatement : WritesStatement tokens statement)
    (hmeet : Meet front.toList rest.toList) (hrest : parseBody rest = .ok statements) :
    parseBody (front ++ rest) = .ok (statement :: statements) := by
  obtain ⟨others, hlexes, hbody⟩ := parseBody_eq_ok.mp hrest
  have hwrites := writesBody_cons hstatement hbody
  refine parseBody_eq_ok.mpr ⟨tokens ++ .semicolon :: others, ?_, hwrites⟩
  rw [String.toList_append]
  simpa using hfront.append hlexes hmeet

namespace WritesBody

variable {tokens : List Token} {statements : List Statement}

theorem writes_piece (hbody : WritesBody tokens statements) {piece : List Token}
    (hpiece : piece ∈ Text.splitWhere (· == Token.semicolon) tokens) (hne : piece ≠ []) :
    ∃ statement, WritesStatement piece statement := by
  have hmem : piece ∈
      (Text.splitWhere (· == Token.semicolon) tokens).filter (! ·.isEmpty) := by
    simp [List.mem_filter, hpiece, hne]
  obtain ⟨statement, _, hwrites⟩ := Text.exists_of_forall₂ hbody hmem
  exact ⟨statement, hwrites⟩

theorem number_mem (hbody : WritesBody tokens statements) {n : Int64}
    (hn : n ∈ statements.flatMap Statement.literals) : .number n ∈ tokens := by
  obtain ⟨statement, hstatement, hn⟩ := List.mem_flatMap.mp hn
  obtain ⟨piece, hpiece, hwrites⟩ := Text.exists_of_forall₂ hbody.flip hstatement
  have hmem := hwrites.number_mem hn
  have hsplit := List.mem_of_mem_filter hpiece
  exact (Text.exists_piece_iff.mp ⟨piece, hsplit, hmem⟩).1

theorem isStatementToken (hbody : WritesBody tokens statements) {token : Token}
    (htoken : token ∈ tokens) : token = .semicolon ∨ IsStatementToken token := by
  cases hsep : token == Token.semicolon with
  | true => exact .inl (beq_iff_eq.mp hsep)
  | false =>
      obtain ⟨piece, hpiece, hmem⟩ :=
        (@Text.exists_piece_iff _ (· == Token.semicolon) _ _).mpr ⟨htoken, hsep⟩
      obtain ⟨statement, hwrites⟩ := hbody.writes_piece hpiece (List.ne_nil_of_mem hmem)
      exact .inr (hwrites.isStatementToken token hmem)

theorem text_eq_empty (hbody : WritesBody tokens statements) {content : String}
    (hmem : .text content ∈ tokens) : content = "" := by
  have htoken := hbody.isStatementToken hmem
  simpa [IsStatementToken, IsExprToken] using htoken

theorem brace_not_mem (hbody : WritesBody tokens statements) {text : List Char}
    (hlexes : Lexes text tokens) : '}' ∉ text := by
  intro hmem
  have hchar := hlexes.isSourceChar (fun _ => hbody.text_eq_empty) '}' hmem
  exact absurd hchar (by decide)

theorem isChain (hbody : WritesBody tokens statements) : tokens.IsChain MayMeet := by
  refine @Text.isChain_of_splitWhere _ (· == Token.semicolon) _ _ ?_ ?_
  · intro piece hpiece
    cases piece with
    | nil => exact .nil
    | cons token others =>
        obtain ⟨statement, hwrites⟩ := hbody.writes_piece hpiece (List.cons_ne_nil token others)
        exact hwrites.isChain
  · intro left right hsep name name' hleft hright
    subst hleft hright
    simp at hsep

end WritesBody

/-! ## Functions -/

theorem parseFunction_eq_ok {name params body : String} {function : Function} :
    parseFunction name params body = .ok function ↔
      function.name = name ∧ parseParams params = .ok function.params ∧
        parseBody body = .ok function.body := by
  obtain ⟨found, names, statements⟩ := function
  simp only [parseFunction, bind_eq_ok]
  constructor
  · rintro ⟨names', hnames, statements', hstatements, h⟩
    cases h
    exact ⟨rfl, hnames, hstatements⟩
  · rintro ⟨rfl, hnames, hstatements⟩
    exact ⟨names, hnames, statements, hstatements, rfl⟩

/-- A script writes no negative integer. -/
theorem literals_nonneg_of_loadFunction {script name : String} {function : Function}
    (hload : loadFunction script name = .ok function) {n : Int64}
    (hn : n ∈ function.literals) : 0 ≤ n.toInt := by
  obtain ⟨definition, _, hparse⟩ := loadFunction_eq_ok.mp hload
  obtain ⟨_, _, hbody⟩ := parseFunction_eq_ok.mp hparse
  obtain ⟨tokens, hlexes, hwrites⟩ := parseBody_eq_ok.mp hbody
  exact hlexes.isWritten _ (hwrites.number_mem hn)

end StreamLinks.Cipher
