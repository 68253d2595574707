import StreamLinks.Proofs.Outcome
import StreamLinks.Proofs.Cipher.Grammar

/-!
# The readers read the grammar

A reader is right about a part of the grammar when it takes only tokens that
write what it returns, and takes them whenever nothing that could go on follows
them.  Both directions are proved for every reader in the order in which the
readers are built from each other.  The recursion of the readers is the one on
the nesting budget: with `budget` levels left, `maxNesting - budget` brackets
are open.
-/

namespace StreamLinks.Cipher

/-! ## Single tokens and arguments -/

theorem expect_eq_ok {token : Token} {tokens rest : List Token} :
    expect token tokens = .ok rest ↔ tokens = token :: rest := by
  cases tokens with
  | nil => simp [expect]
  | cons t tokens =>
      by_cases ht : t = token
      · simp [expect, ht]
      · simp [expect, ht]

theorem expectAll_eq_ok {wanted tokens rest : List Token} :
    expectAll wanted tokens = .ok rest ↔ tokens = wanted ++ rest := by
  induction wanted generalizing tokens with
  | nil => simp [expectAll]
  | cons token wanted ih =>
      simp only [expectAll, bind_eq_ok, expect_eq_ok, ih]
      constructor
      · rintro ⟨next, rfl, rfl⟩
        rfl
      · rintro rfl
        exact ⟨wanted ++ rest, rfl, rfl⟩

theorem readName_eq_ok {tokens rest : List Token} {name : String} :
    readName tokens = .ok (name, rest) ↔
      tokens = .word name :: rest ∧ name ∉ reservedWords := by
  unfold readName
  split
  next found others =>
    by_cases hfound : found ∈ reservedWords
    · simp only [List.contains_iff_mem, hfound, if_true, reduceCtorEq, false_iff]
      rintro ⟨heq, hfree⟩
      simp only [List.cons.injEq, Token.word.injEq] at heq
      exact hfree (heq.1 ▸ hfound)
    · simp only [List.contains_iff_mem, hfound, if_false, Except.ok.injEq, Prod.mk.injEq,
        List.cons.injEq, Token.word.injEq]
      constructor
      · rintro ⟨rfl, rfl⟩
        exact ⟨⟨rfl, rfl⟩, hfound⟩
      · exact And.left
  next hother =>
    simp only [reduceCtorEq, false_iff]
    rintro ⟨rfl, _⟩
    exact hother name rest rfl

theorem argument?_eq_some {token : Token} {arg : Arg} :
    argument? token = some arg ↔ WritesArg token arg := by
  constructor
  · intro h
    unfold argument? at h
    split at h
    · cases h
      exact .literal _
    next name =>
      by_cases hname : name ∈ reservedWords
      · simp [hname] at h
      · simp only [List.contains_iff_mem, hname, if_false, Option.some.injEq] at h
        subst h
        exact .name hname
    · cases h
  · intro h
    cases h with
    | literal value => rfl
    | name hname => simp [argument?, hname]

theorem readArgsFrom_sound {tokens rest : List Token} {args : List Arg}
    (h : readArgsFrom tokens = .ok (args, rest)) :
    ∃ taken, tokens = taken ++ .closeParen :: rest ∧ WritesArgsFrom taken args := by
  fun_induction readArgsFrom tokens generalizing args with
  | case1 => cases h
  | case2 => cases h
  | case3 token arg harg others =>
      cases h
      exact ⟨[token], rfl, .last (argument?_eq_some.mp harg)⟩
  | case4 token arg harg others ih =>
      obtain ⟨⟨more, left⟩, hmore, heq⟩ := bind_eq_ok.mp h
      cases heq
      obtain ⟨taken, rfl, hwrites⟩ := ih hmore
      exact ⟨token :: .comma :: taken, rfl, .more (argument?_eq_some.mp harg) hwrites⟩
  | case5 => cases h

theorem readArgsFrom_complete {taken : List Token} {args : List Arg}
    (hargs : WritesArgsFrom taken args) (rest : List Token) :
    readArgsFrom (taken ++ .closeParen :: rest) = .ok (args, rest) := by
  induction hargs with
  | last harg => simp [readArgsFrom, argument?_eq_some.mpr harg]
  | more harg _ ih =>
      simp only [List.cons_append, readArgsFrom, argument?_eq_some.mpr harg, ih]
      rfl

theorem readArgs_sound {tokens rest : List Token} {args : List Arg}
    (h : readArgs tokens = .ok (args, rest)) :
    ∃ taken, tokens = taken ++ .closeParen :: rest ∧ WritesArgs taken args := by
  unfold readArgs at h
  split at h
  · cases h
    exact ⟨[], rfl, .none⟩
  · obtain ⟨taken, htokens, hwrites⟩ := readArgsFrom_sound h
    exact ⟨taken, htokens, .some hwrites⟩

theorem readArgs_complete {taken : List Token} {args : List Arg}
    (hargs : WritesArgs taken args) (rest : List Token) :
    readArgs (taken ++ .closeParen :: rest) = .ok (args, rest) := by
  cases hargs with
  | none => rfl
  | some hfrom =>
      have hread := readArgsFrom_complete hfrom rest
      unfold readArgs
      split
      next others heq =>
        rw [heq] at hread
        simp [readArgsFrom, argument?] at hread
      next => exact hread

/-! ## Operands, chains and expressions -/

/-- Nothing follows that an operand could go on with. -/
def EndsOperand (rest : List Token) : Prop :=
  rest.head? ≠ some .dot ∧ rest.head? ≠ some .openBracket ∧ rest.head? ≠ some .openParen

/-- Nothing follows that an expression could go on with. -/
def EndsExpr (rest : List Token) : Prop :=
  EndsOperand rest ∧ rest.head? ≠ some .percent

/-- The reader takes exactly what the relation writes, wherever that ends. -/
structure Reads (reader : Reader Expr) (writes : List Token → Expr → Prop)
    (ends : List Token → Prop) : Prop where
  sound :
    ∀ {tokens expr rest}, reader tokens = .ok (expr, rest) →
      ∃ taken, tokens = taken ++ rest ∧ writes taken expr
  complete :
    ∀ {taken expr rest}, writes taken expr → ends rest →
      reader (taken ++ rest) = .ok (expr, rest)

theorem unchained_sound {expr found : Expr} {tokens rest : List Token}
    (h : unchained expr tokens = .ok (found, rest)) : expr = found ∧ tokens = rest := by
  unfold unchained at h
  split at h <;> cases h
  exact ⟨rfl, rfl⟩

theorem unchained_complete (expr : Expr) {rest : List Token} (hends : EndsOperand rest) :
    unchained expr rest = .ok (expr, rest) := by
  obtain ⟨hdot, hbracket, hparen⟩ := hends
  unfold unchained
  split <;> simp_all

private theorem readMember_sound {expression : Reader Expr} {brackets : Nat}
    {object : String} {tokens rest : List Token} {expr : Expr}
    (hreads : Reads expression (WritesExpr (brackets + 1)) EndsExpr)
    (hobject : object ∉ reservedWords)
    (h : readMember expression object tokens = .ok (expr, rest)) :
    ∃ taken, tokens = taken ++ rest ∧
      WritesOperand brackets (.word object :: .dot :: taken) expr := by
  unfold readMember at h
  split at h
  next name others =>
    split at h
    · obtain ⟨left, hleft, heq⟩ := bind_eq_ok.mp h
      cases heq
      rw [expectAll_eq_ok] at hleft
      subst hleft
      exact ⟨[.word "split", .openParen, .text "", .closeParen], rfl, .split hobject⟩
    · obtain ⟨left, hleft, heq⟩ := bind_eq_ok.mp h
      cases heq
      rw [expectAll_eq_ok] at hleft
      subst hleft
      exact ⟨[.word "join", .openParen, .text "", .closeParen], rfl, .join hobject⟩
    · obtain ⟨left, hleft, heq⟩ := bind_eq_ok.mp h
      cases heq
      rw [expectAll_eq_ok] at hleft
      subst hleft
      exact ⟨[.word "reverse", .openParen, .closeParen], rfl, .reverse hobject⟩
    · cases h
      exact ⟨[.word "length"], rfl, .length hobject⟩
    · obtain ⟨inside, hopen, hinside⟩ := bind_eq_ok.mp h
      obtain ⟨⟨start, left⟩, hstart, hleft⟩ := bind_eq_ok.mp hinside
      obtain ⟨last, hclose, heq⟩ := bind_eq_ok.mp hleft
      cases heq
      rw [expect_eq_ok] at hopen hclose
      obtain ⟨taken, rfl, hwrites⟩ := hreads.sound hstart
      subst hopen hclose
      refine ⟨.word "slice" :: .openParen :: (taken ++ [.closeParen]), by simp, ?_⟩
      exact .slice hobject hwrites
    · cases h
  next => cases h

theorem readOperand_sound {expression : Reader Expr} {brackets : Nat}
    {tokens rest : List Token} {expr : Expr}
    (hreads : Reads expression (WritesExpr (brackets + 1)) EndsExpr)
    (h : readOperand expression tokens = .ok (expr, rest)) :
    ∃ taken, tokens = taken ++ rest ∧ WritesOperand brackets taken expr := by
  unfold readOperand at h
  split at h
  next value others =>
    cases h
    exact ⟨[.number value], rfl, .literal value⟩
  next =>
    obtain ⟨⟨name, others⟩, hname, hothers⟩ := bind_eq_ok.mp h
    obtain ⟨rfl, hfree⟩ := readName_eq_ok.mp hname
    dsimp only at hothers
    split at hothers
    next inside =>
      obtain ⟨⟨found, left⟩, hmember, hend⟩ := bind_eq_ok.mp hothers
      obtain ⟨rfl, rfl⟩ := unchained_sound hend
      obtain ⟨taken, rfl, hwrites⟩ := readMember_sound hreads hfree hmember
      exact ⟨.word name :: .dot :: taken, rfl, hwrites⟩
    next inside =>
      obtain ⟨⟨position, left⟩, hposition, hlast⟩ := bind_eq_ok.mp hothers
      obtain ⟨last, hclose, hend⟩ := bind_eq_ok.mp hlast
      obtain ⟨rfl, rfl⟩ := unchained_sound hend
      rw [expect_eq_ok] at hclose
      obtain ⟨taken, rfl, hwrites⟩ := hreads.sound hposition
      subst hclose
      exact ⟨.word name :: .openBracket :: taken ++ [.closeBracket], by simp,
        .index hfree hwrites⟩
    next inside =>
      obtain ⟨⟨args, left⟩, hargs, hend⟩ := bind_eq_ok.mp hothers
      obtain ⟨rfl, rfl⟩ := unchained_sound hend
      obtain ⟨taken, rfl, hwrites⟩ := readArgs_sound hargs
      exact ⟨.word name :: .openParen :: taken ++ [.closeParen], by simp,
        .call hfree hwrites⟩
    next =>
      cases hothers
      exact ⟨[.word name], rfl, .name hfree⟩

theorem readOperand_complete {expression : Reader Expr} {brackets : Nat}
    {taken rest : List Token} {expr : Expr}
    (hreads : Reads expression (WritesExpr (brackets + 1)) EndsExpr)
    (hwrites : WritesOperand brackets taken expr) (hends : EndsOperand rest) :
    readOperand expression (taken ++ rest) = .ok (expr, rest) := by
  have hinside : ∀ {inner : List Token} {found : Expr} (close : Token),
      WritesExpr (brackets + 1) inner found →
      close = .closeParen ∨ close = .closeBracket →
      expression (inner ++ close :: rest) = .ok (found, close :: rest) := by
    rintro inner found close hinner (rfl | rfl) <;>
      exact hreads.complete hinner (by simp [EndsExpr, EndsOperand])
  have hname : ∀ {name : String} (others : List Token), name ∉ reservedWords →
      readName (.word name :: others) = .ok (name, others) := by
    intro name others hfree
    exact readName_eq_ok.mpr ⟨rfl, hfree⟩
  have hunchained := fun found => unchained_complete found hends
  cases hwrites with
  | literal value => rfl
  | name hfree =>
      obtain ⟨hdot, hbracket, hparen⟩ := hends
      simp only [List.singleton_append, readOperand, hname _ hfree]
      simp only [bind, Except.bind]
      split <;> simp_all
  | split hfree | reverse hfree | join hfree =>
      simp [readOperand, hname _ hfree, readMember, expectAll, expect, bind, Except.bind,
        hunchained, pure, Except.pure]
  | length hfree =>
      simp [readOperand, hname _ hfree, readMember, bind, Except.bind, hunchained]
  | slice hfree hstart =>
      simp [readOperand, hname _ hfree, readMember, expect, bind, Except.bind,
        hinside .closeParen hstart, hunchained, pure, Except.pure]
  | index hfree hposition =>
      simp [readOperand, hname _ hfree, expect, bind, Except.bind,
        hinside .closeBracket hposition, hunchained]
  | call hfree hargs =>
      simp [readOperand, hname _ hfree, bind, Except.bind, readArgs_complete hargs,
        hunchained]

private theorem readChain_sound {operand : Reader Expr} {brackets budget operators : Nat}
    {before tokens rest : List Token} {left expr : Expr}
    (hreads : ∀ {tokens expr rest}, operand tokens = .ok (expr, rest) →
      ∃ taken, tokens = taken ++ rest ∧ WritesOperand brackets taken expr)
    (hleft : WritesChain brackets operators before left)
    (h : readChain operand budget left tokens = .ok (expr, rest)) :
    ∃ taken more, tokens = taken ++ rest ∧ more ≤ budget ∧
      WritesChain brackets (operators + more) (before ++ taken) expr := by
  induction budget generalizing operators before tokens left with
  | zero =>
      unfold readChain at h
      split at h
      next => cases h
      next =>
        cases h
        exact ⟨[], 0, rfl, Nat.le_refl 0, by simpa using hleft⟩
  | succ budget ih =>
      unfold readChain at h
      split at h
      next others =>
        obtain ⟨⟨right, next⟩, hoperand, hchain⟩ := bind_eq_ok.mp h
        obtain ⟨taken, rfl, hright⟩ := hreads hoperand
        obtain ⟨further, more, rfl, hmore, hwrites⟩ := ih (hleft.modulo hright) hchain
        refine ⟨.percent :: taken ++ further, more + 1, by simp, by omega, ?_⟩
        simpa [Nat.add_assoc, Nat.add_comm 1 more] using hwrites
      next =>
        cases h
        exact ⟨[], 0, rfl, Nat.zero_le _, by simpa using hleft⟩

/-- Reading the operands of a chain one by one arrives at its tree, with the
budget lowered by the number of its operators. -/
private theorem readChain_complete {operand : Reader Expr} {brackets operators : Nat}
    {taken : List Token} {expr : Expr} (budget : Nat)
    (hreads : ∀ {taken expr rest}, WritesOperand brackets taken expr → EndsOperand rest →
      operand (taken ++ rest) = .ok (expr, rest))
    (hchain : WritesChain brackets operators taken expr) (hbudget : operators ≤ budget)
    {rest : List Token} (hends : EndsOperand rest) :
    (do let (left, others) ← operand (taken ++ rest)
        readChain operand budget left others) =
      readChain operand (budget - operators) expr rest := by
  cases hchain with
  | operand hoperand =>
      rw [hreads hoperand hends]
      rfl
  | @modulo _ fewer before after dividend divisor hleft hright =>
      have hpercent : EndsOperand (.percent :: (after ++ rest)) := by
        simp [EndsOperand]
      have hprefix := readChain_complete budget hreads hleft (by omega) hpercent
      obtain ⟨spare, hspare⟩ : ∃ spare, budget - fewer = spare + 1 :=
        ⟨budget - fewer - 1, by omega⟩
      rw [List.append_assoc, List.cons_append, hprefix, hspare,
        show budget - (fewer + 1) = spare by omega]
      simp only [readChain, hreads hright hends]
      rfl
termination_by operators

theorem readChain_of_endsExpr {operand : Reader Expr} {budget : Nat} {expr : Expr}
    {rest : List Token} (hends : EndsExpr rest) :
    readChain operand budget expr rest = .ok (expr, rest) := by
  have hpercent := hends.2
  cases budget <;> unfold readChain <;> split <;> simp_all

/-- With `budget` levels of nesting left, the reader takes the expressions that
stand inside the other `maxNesting - budget` brackets. -/
theorem readExpr_reads {budget brackets : Nat} (hbudget : brackets + budget = maxNesting) :
    Reads (readExpr budget) (WritesExpr brackets) EndsExpr := by
  induction budget generalizing brackets with
  | zero =>
      constructor
      · intro tokens expr rest h
        cases h
      · intro taken expr rest hwrites _
        obtain ⟨_, hnesting⟩ := hwrites
        omega
  | succ budget ih =>
      have hinner : Reads (readExpr budget) (WritesExpr (brackets + 1)) EndsExpr :=
        ih (by omega)
      constructor
      · intro tokens expr rest h
        obtain ⟨⟨left, others⟩, hoperand, hchain⟩ := bind_eq_ok.mp h
        obtain ⟨first, rfl, hfirst⟩ := readOperand_sound hinner hoperand
        obtain ⟨further, more, rfl, hmore, hwrites⟩ :=
          readChain_sound (readOperand_sound hinner) (.operand hfirst) hchain
        exact ⟨first ++ further, by simp, .chain hwrites (by omega)⟩
      · intro taken expr rest hwrites hends
        obtain ⟨hchain, hnesting⟩ := hwrites
        have hread := readChain_complete budget (readOperand_complete hinner) hchain
          (by omega) hends.1
        rw [readChain_of_endsExpr hends] at hread
        exact hread

theorem readWholeExpr_eq_ok {tokens : List Token} {expr : Expr} :
    readWholeExpr tokens = .ok expr ↔ WritesExpr 0 tokens expr := by
  have hreads : Reads (readExpr maxNesting) (WritesExpr 0) EndsExpr :=
    readExpr_reads (Nat.zero_add maxNesting)
  constructor
  · intro h
    obtain ⟨⟨found, rest⟩, hread, hend⟩ := bind_eq_ok.mp h
    obtain ⟨taken, rfl, hwrites⟩ := hreads.sound hread
    cases rest with
    | nil =>
        cases hend
        simpa using hwrites
    | cons => cases hend
  · intro hwrites
    have hread : readExpr maxNesting (tokens ++ []) = .ok (expr, []) :=
      hreads.complete hwrites (by simp [EndsExpr, EndsOperand])
    rw [List.append_nil] at hread
    simp only [readWholeExpr, hread]
    rfl

theorem WritesExpr.ne_nil {tokens : List Token} {expr : Expr}
    (hwrites : WritesExpr 0 tokens expr) : tokens ≠ [] := by
  rintro rfl
  have hread := readWholeExpr_eq_ok.mpr hwrites
  cases hread

/-! ## Statements -/

theorem readAssignment_sound {tokens keyword : List Token} {statement : Statement}
    (hkeyword : IsDeclarator keyword) (h : readAssignment tokens = .ok statement) :
    WritesStatement (keyword ++ tokens) statement := by
  obtain ⟨⟨target, others⟩, hname, hothers⟩ := bind_eq_ok.mp h
  obtain ⟨rfl, hfree⟩ := readName_eq_ok.mp hname
  dsimp only at hothers
  split at hothers
  next inside =>
    obtain ⟨⟨position, left⟩, hposition, hleft⟩ := bind_eq_ok.mp hothers
    obtain ⟨last, hclose, hlast⟩ := bind_eq_ok.mp hleft
    obtain ⟨value, hvalue, heq⟩ := bind_eq_ok.mp hlast
    cases heq
    rw [expectAll_eq_ok] at hclose
    rw [readWholeExpr_eq_ok] at hvalue
    obtain ⟨inner, rfl, hinner⟩ := (readExpr_reads (Nat.zero_add maxNesting)).sound hposition
    subst hclose
    simpa using WritesStatement.assignAt hkeyword hfree hinner hvalue
  next =>
    obtain ⟨last, hassign, hlast⟩ := bind_eq_ok.mp hothers
    obtain ⟨value, hvalue, heq⟩ := bind_eq_ok.mp hlast
    cases heq
    rw [expect_eq_ok] at hassign
    rw [readWholeExpr_eq_ok] at hvalue
    subst hassign
    exact .assign hkeyword hfree hvalue

theorem readAssignment_assign {tokens : List Token} {target : String} {value : Expr}
    (htarget : target ∉ reservedWords) (hvalue : WritesExpr 0 tokens value) :
    readAssignment (.word target :: .assign :: tokens) = .ok (.assign target value) := by
  rw [readAssignment, readName_eq_ok.mpr ⟨rfl, htarget⟩]
  simp [bind, Except.bind, expect, readWholeExpr_eq_ok.mpr hvalue, pure, Except.pure]

theorem readAssignment_assignAt {inner tokens : List Token} {target : String}
    {position value : Expr} (htarget : target ∉ reservedWords)
    (hposition : WritesExpr 0 inner position) (hvalue : WritesExpr 0 tokens value) :
    readAssignment
        (.word target :: .openBracket :: inner ++ .closeBracket :: .assign :: tokens) =
      .ok (.assignAt target position value) := by
  have hinner : readExpr maxNesting (inner ++ .closeBracket :: .assign :: tokens) =
      .ok (position, .closeBracket :: .assign :: tokens) :=
    (readExpr_reads (Nat.zero_add maxNesting)).complete hposition
      (by simp [EndsExpr, EndsOperand])
  simp only [List.cons_append, readAssignment, readName_eq_ok.mpr ⟨rfl, htarget⟩]
  simp [bind, Except.bind, hinner, expectAll, expect, readWholeExpr_eq_ok.mpr hvalue, pure,
    Except.pure]

theorem statementOfTokens_return {tokens : List Token} {value : Expr}
    (hvalue : WritesExpr 0 tokens value) :
    statementOfTokens (.word "return" :: tokens) = .ok (.ret value) := by
  unfold statementOfTokens
  split
  next heq =>
    simp only [List.cons.injEq, true_and] at heq
    exact absurd heq hvalue.ne_nil
  next others _ heq =>
    simp only [List.cons.injEq, true_and] at heq
    subst heq
    exact mapError_eq_ok.mpr (map_eq_ok.mpr ⟨_, readWholeExpr_eq_ok.mpr hvalue, rfl⟩)
  next heq => simp at heq
  next _ hreturn _ => exact (hreturn _ rfl).elim

/-- A target is not reserved, so a sequence that starts with it has no keyword. -/
theorem statementOfTokens_assignment {others keyword : List Token} {target : String}
    {statement : Statement} (hkeyword : IsDeclarator keyword) (hfree : target ∉ reservedWords)
    (hread : readAssignment (.word target :: others) = .ok statement) :
    statementOfTokens (keyword ++ .word target :: others) = .ok statement := by
  rcases hkeyword with rfl | rfl
  · have hreturn : target ≠ "return" := by
      rintro rfl
      exact hfree (by decide)
    have hvar : target ≠ "var" := by
      rintro rfl
      exact hfree (by decide)
    simp only [List.nil_append]
    unfold statementOfTokens
    split
    next heq => simp_all
    next heq => simp_all
    next heq => simp_all
    next => exact mapError_eq_ok.mpr hread
  · simp only [List.singleton_append, statementOfTokens]
    exact mapError_eq_ok.mpr hread

theorem statementOfTokens_eq_ok {tokens : List Token} {statement : Statement} :
    statementOfTokens tokens = .ok statement ↔ WritesStatement tokens statement := by
  constructor
  · intro h
    unfold statementOfTokens at h
    split at h
    next => cases h
    next others _ =>
      obtain ⟨value, hvalue, rfl⟩ := map_eq_ok.mp (mapError_eq_ok.mp h)
      exact .ret (readWholeExpr_eq_ok.mp hvalue)
    next others =>
      exact readAssignment_sound (.inr rfl) (mapError_eq_ok.mp h)
    next =>
      exact readAssignment_sound (.inl rfl) (mapError_eq_ok.mp h)
  · intro hwrites
    cases hwrites with
    | ret hvalue => exact statementOfTokens_return hvalue
    | assign hdeclarator htarget hvalue =>
        have hread := readAssignment_assign htarget hvalue
        exact statementOfTokens_assignment hdeclarator htarget hread
    | assignAt hdeclarator htarget hposition hvalue =>
        have hread := readAssignment_assignAt htarget hposition hvalue
        simp only [List.cons_append, List.append_assoc] at hread ⊢
        exact statementOfTokens_assignment hdeclarator htarget hread

/-! ## Source texts -/

theorem parseExpression_eq_ok {source : String} {expr : Expr} :
    parseExpression source = .ok expr ↔
      ∃ tokens, tokenize source = .ok tokens ∧ WritesExpr 0 tokens expr := by
  simp only [parseExpression, bind_eq_ok, reportIn, mapError_eq_ok, readWholeExpr_eq_ok]

theorem parseStatement_eq_ok {source : String} {statement : Statement} :
    parseStatement source = .ok statement ↔
      ∃ tokens, tokenize source = .ok tokens ∧ WritesStatement tokens statement := by
  simp only [parseStatement, bind_eq_ok]
  constructor
  · rintro ⟨tokens, htokens, h⟩
    split at h
    · cases h
    · exact ⟨tokens, htokens, statementOfTokens_eq_ok.mp h⟩
  · rintro ⟨tokens, htokens, hwrites⟩
    refine ⟨tokens, htokens, ?_⟩
    rw [if_neg (by simpa using hwrites.semicolon_not_mem)]
    exact statementOfTokens_eq_ok.mpr hwrites

/-- A text is read as a statement exactly when its tokens write that statement,
and as an expression exactly when they write that expression.  No sequence of
tokens writes two trees, whether or not it comes from a text. -/
theorem parsing_agrees_with_grammar :
    (∀ source statement, parseStatement source = .ok statement ↔
      ∃ tokens, tokenize source = .ok tokens ∧ WritesStatement tokens statement) ∧
    (∀ source expr, parseExpression source = .ok expr ↔
      ∃ tokens, tokenize source = .ok tokens ∧ WritesExpr 0 tokens expr) ∧
    (∀ tokens first second, WritesStatement tokens first →
      WritesStatement tokens second → first = second) ∧
    (∀ tokens first second, WritesExpr 0 tokens first →
      WritesExpr 0 tokens second → first = second) := by
  refine ⟨fun _ _ => parseStatement_eq_ok, fun _ _ => parseExpression_eq_ok, ?_, ?_⟩
  · intro tokens first second hfirst hsecond
    have hread := statementOfTokens_eq_ok.mpr hfirst
    rw [statementOfTokens_eq_ok.mpr hsecond] at hread
    exact (Except.ok.inj hread).symm
  · intro tokens first second hfirst hsecond
    have hread := readWholeExpr_eq_ok.mpr hfirst
    rw [readWholeExpr_eq_ok.mpr hsecond] at hread
    exact (Except.ok.inj hread).symm

end StreamLinks.Cipher
