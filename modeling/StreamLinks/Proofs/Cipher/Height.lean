import StreamLinks.Proofs.Cipher.Bodies
import StreamLinks.Proofs.Cipher.Rendering

/-!
# The height of trees

Evaluating and printing a tree, and giving it up, take as many nested steps as the tree is high.
What the nesting limit counts is less than that: for the expression inside some brackets it counts
these brackets and the operators of the expression, but not the operators around the brackets.
Each pair of brackets inside the first operand of a chain adds the whole chain to the height.
So a tree within a limit of `n` has at most the height `n + (n - 1) + ⋯ + 1`, which is reached, and
the height `n` is only kept where no operand of an operator has an expression in brackets.
-/

namespace StreamLinks.Cipher

/-- The number of nodes on the longest way from the root of a tree to a leaf. -/
def Expr.height : Expr → Nat
  | .slice _ start => start.height + 1
  | .index _ position => position.height + 1
  | .modulo dividend divisor => max dividend.height divisor.height + 1
  | _ => 1

/-- The trees that a statement is built from. -/
def Statement.exprs : Statement → List Expr
  | .ret value => [value]
  | .assign _ value => [value]
  | .assignAt _ position value => [position, value]

/-- There are no expressions in brackets. -/
def Expr.IsFlat : Expr → Prop
  | .slice _ _ => False
  | .index _ _ => False
  | .modulo dividend divisor => dividend.IsFlat ∧ divisor.IsFlat
  | _ => True

/-- No operand of an operator has an expression in brackets. -/
def Expr.IsUnmixed : Expr → Prop
  | .slice _ start => start.IsUnmixed
  | .index _ position => position.IsUnmixed
  | .modulo dividend divisor => dividend.IsFlat ∧ divisor.IsFlat
  | _ => True

/-- The greatest height of a tree with a nesting budget: the chain on the outside takes up the
budget, and its first operand has brackets with a tree for the budget that is left. -/
def greatestHeight : (budget : Nat) → Nat
  | 0 => 0
  | budget + 1 => greatestHeight budget + (budget + 1)

theorem Expr.height_pos (expr : Expr) : 1 ≤ expr.height := by
  cases expr <;> simp [height]

/-! ## Bounds -/

theorem greatestHeight_of_brackets {brackets : Nat} (hbrackets : brackets + 1 ≤ maxNesting) :
    greatestHeight (maxNesting - brackets) =
      greatestHeight (maxNesting - (brackets + 1)) + (maxNesting - brackets) := by
  have hbudget : maxNesting - brackets = maxNesting - (brackets + 1) + 1 := by omega
  rw [hbudget, greatestHeight]

mutual

theorem WritesExpr.height_le {brackets : Nat} {tokens : List Token} {expr : Expr} :
    WritesExpr brackets tokens expr → expr.height ≤ greatestHeight (maxNesting - brackets)
  | .chain hchain hnesting => by
      have hheight := hchain.height_le
      rw [greatestHeight_of_brackets (by omega)]
      omega

theorem WritesChain.height_le {brackets operators : Nat} {tokens : List Token} {expr : Expr} :
    WritesChain brackets operators tokens expr →
      expr.height ≤ greatestHeight (maxNesting - (brackets + 1)) + 1 + operators
  | .operand hoperand => hoperand.height_le
  | .modulo hleft hright => by
      have hl := hleft.height_le
      have hr := hright.height_le
      simp only [Expr.height]
      omega

theorem WritesOperand.height_le {brackets : Nat} {tokens : List Token} {expr : Expr} :
    WritesOperand brackets tokens expr →
      expr.height ≤ greatestHeight (maxNesting - (brackets + 1)) + 1
  | .literal _ | .name _ | .split _ | .reverse _ | .join _ | .length _ | .call _ _ => by
      simp [Expr.height]
  | .slice _ hstart => Nat.succ_le_succ hstart.height_le
  | .index _ hposition => Nat.succ_le_succ hposition.height_le

end

/-! ## Where brackets and operators do not mix -/

theorem WritesOperand.height_of_flat {brackets : Nat} {tokens : List Token} {expr : Expr}
    (hwrites : WritesOperand brackets tokens expr) (hflat : expr.IsFlat) : expr.height = 1 := by
  cases hwrites with
  | slice => exact hflat.elim
  | index => exact hflat.elim
  | _ => rfl

theorem WritesChain.height_of_flat {brackets operators : Nat} {tokens : List Token}
    {expr : Expr} :
    WritesChain brackets operators tokens expr → expr.IsFlat → expr.height = operators + 1
  | .operand hoperand, hflat => by rw [hoperand.height_of_flat hflat]
  | .modulo hleft hright, ⟨hdividend, hdivisor⟩ => by
      have hl := hleft.height_of_flat hdividend
      have hr := hright.height_of_flat hdivisor
      simp only [Expr.height]
      omega

mutual

theorem WritesExpr.height_of_unmixed {brackets : Nat} {tokens : List Token} {expr : Expr} :
    WritesExpr brackets tokens expr → expr.IsUnmixed → brackets + expr.height ≤ maxNesting
  | .chain hchain hnesting, hunmixed => hchain.height_of_unmixed hnesting hunmixed

theorem WritesChain.height_of_unmixed {brackets operators : Nat} {tokens : List Token}
    {expr : Expr} :
    WritesChain brackets operators tokens expr → brackets + 1 + operators ≤ maxNesting →
      expr.IsUnmixed → brackets + expr.height ≤ maxNesting
  | .operand hoperand, hnesting, hunmixed => hoperand.height_of_unmixed hnesting hunmixed
  | .modulo hleft hright, hnesting, hflat => by
      have hheight := (WritesChain.modulo hleft hright).height_of_flat hflat
      omega

theorem WritesOperand.height_of_unmixed {brackets : Nat} {tokens : List Token} {expr : Expr} :
    WritesOperand brackets tokens expr → brackets + 1 ≤ maxNesting → expr.IsUnmixed →
      brackets + expr.height ≤ maxNesting
  | .literal _, hnesting, _ | .name _, hnesting, _ | .split _, hnesting, _
  | .reverse _, hnesting, _ | .join _, hnesting, _ | .length _, hnesting, _
  | .call _ _, hnesting, _ => hnesting
  | .slice _ hstart, _, hunmixed => by
      have hheight := hstart.height_of_unmixed hunmixed
      simp only [Expr.height]
      omega
  | .index _ hposition, _, hunmixed => by
      have hheight := hposition.height_of_unmixed hunmixed
      simp only [Expr.height]
      omega

end

/-! ## Trees of the greatest height -/

/-- A chain of operators on the right of a tree. -/
def chainOf (head : Expr) : (operators : Nat) → Expr
  | 0 => head
  | operators + 1 => .modulo (chainOf head operators) (.literal 1)

/-- Brackets inside brackets, each with a chain behind it that is as long as the ones inside
leave room for. -/
def tallest : (brackets : Nat) → Expr
  | 0 => .variable "x"
  | brackets + 1 => chainOf (.index "x" (tallest brackets)) (brackets + 1)

theorem height_chainOf (head : Expr) (operators : Nat) :
    (chainOf head operators).height = head.height + operators := by
  induction operators with
  | zero => rfl
  | succ operators ih =>
      have hpos := head.height_pos
      simp only [chainOf, Expr.height, ih]
      omega

theorem height_tallest (brackets : Nat) :
    (tallest brackets).height = greatestHeight (brackets + 1) := by
  induction brackets with
  | zero => rfl
  | succ brackets ih =>
      rw [tallest, height_chainOf, Expr.height, ih, greatestHeight.eq_def (brackets + 1 + 1)]
      dsimp only
      omega

theorem exists_chainOf {brackets : Nat} {tokens : List Token} {head : Expr} (operators : Nat)
    (hhead : WritesOperand brackets tokens head) (hwritten : ∀ token ∈ tokens, token.IsWritten) :
    ∃ others, WritesChain brackets operators others (chainOf head operators) ∧
      ∀ token ∈ others, token.IsWritten := by
  induction operators with
  | zero => exact ⟨tokens, .operand hhead, hwritten⟩
  | succ operators ih =>
      obtain ⟨others, hchain, hothers⟩ := ih
      refine ⟨others ++ [.percent, .number 1], .modulo hchain (.literal 1), ?_⟩
      have hnumber : 0 ≤ (1 : Int64).toInt := by decide
      simp only [List.forall_mem_append, List.forall_mem_cons]
      exact ⟨hothers, trivial, hnumber, by simp⟩

/-- Within the limit the trees are written by tokens that a text can have. -/
theorem exists_tallest {brackets inner : Nat} (hnesting : brackets + inner + 1 ≤ maxNesting) :
    ∃ tokens, WritesExpr brackets tokens (tallest inner) ∧ ∀ token ∈ tokens, token.IsWritten := by
  have hname : "x" ∉ reservedWords := by decide
  have hword : (Token.word "x").IsWritten := isIdentifier_eq_true.mp (by decide)
  induction inner generalizing brackets with
  | zero =>
      refine ⟨_, .chain (.operand (.name hname)) hnesting, ?_⟩
      simpa using hword
  | succ inner ih =>
      have hinside : brackets + 1 + inner + 1 ≤ maxNesting := by omega
      obtain ⟨tokens, hinner, htokens⟩ := ih hinside
      have hbracketed : ∀ token ∈ .word "x" :: .openBracket :: tokens ++ [.closeBracket],
          token.IsWritten := by
        simp only [List.forall_mem_append, List.forall_mem_cons]
        exact ⟨⟨hword, trivial, htokens⟩, trivial, by simp⟩
      obtain ⟨others, hchain, hothers⟩ :=
        exists_chainOf (inner + 1) (.index hname hinner) hbracketed
      exact ⟨others, .chain hchain (by omega), hothers⟩

theorem exists_source_tallest {brackets : Nat} (hnesting : brackets + 1 ≤ maxNesting) :
    ∃ source, parseExpression source = .ok (tallest brackets) := by
  have hwithin : 0 + brackets + 1 ≤ maxNesting := by omega
  obtain ⟨tokens, hwrites, hwritten⟩ := exists_tallest hwithin
  exact ⟨render tokens,
    parseExpression_eq_ok.mpr ⟨tokens, hwrites.tokenize_of_written hwritten, hwrites⟩⟩

/-! ## Trees that are read -/

/-- The tree is no higher than the nesting limit makes it. -/
structure Expr.IsLimited (expr : Expr) : Prop where
  height_le : expr.height ≤ greatestHeight maxNesting
  height_of_unmixed : expr.IsUnmixed → expr.height ≤ maxNesting

theorem WritesExpr.isLimited {tokens : List Token} {expr : Expr}
    (hwrites : WritesExpr 0 tokens expr) : expr.IsLimited where
  height_le := hwrites.height_le
  height_of_unmixed hunmixed := by
    have hheight := hwrites.height_of_unmixed hunmixed
    omega

theorem WritesStatement.isLimited {tokens : List Token} {statement : Statement}
    (hwrites : WritesStatement tokens statement) : ∀ expr ∈ statement.exprs, expr.IsLimited := by
  cases hwrites with
  | ret hvalue => simpa [Statement.exprs] using hvalue.isLimited
  | assign _ _ hvalue => simpa [Statement.exprs] using hvalue.isLimited
  | assignAt _ _ hposition hvalue =>
      simpa [Statement.exprs] using And.intro hposition.isLimited hvalue.isLimited

theorem WritesBody.isLimited {tokens : List Token} {statements : List Statement}
    (hbody : WritesBody tokens statements) :
    ∀ statement ∈ statements, ∀ expr ∈ statement.exprs, expr.IsLimited := by
  intro statement hstatement
  obtain ⟨piece, -, hwrites⟩ := Text.exists_of_forall₂ hbody.flip hstatement
  exact hwrites.isLimited

/-- Trees that are read from a source have at most the height that the nesting limit makes
possible, and at most the height of the limit itself where operators and brackets do not mix.
What the limit makes possible is much more than the limit, and is reached. -/
theorem heights_of_parsed (source : String) :
    (∀ expr, parseExpression source = .ok expr → expr.IsLimited) ∧
    (∀ statement, parseStatement source = .ok statement →
      ∀ expr ∈ statement.exprs, expr.IsLimited) ∧
    (∀ name params function, parseFunction name params source = .ok function →
      ∀ statement ∈ function.body, ∀ expr ∈ statement.exprs, expr.IsLimited) ∧
    greatestHeight maxNesting = 2080 ∧
    ∃ highest expr, parseExpression highest = .ok expr ∧
      expr.height = greatestHeight maxNesting := by
  refine ⟨?_, ?_, ?_, by decide, ?_⟩
  · intro expr hparse
    obtain ⟨tokens, -, hwrites⟩ := parseExpression_eq_ok.mp hparse
    exact hwrites.isLimited
  · intro statement hparse
    obtain ⟨tokens, -, hwrites⟩ := parseStatement_eq_ok.mp hparse
    exact hwrites.isLimited
  · intro name params function hparse
    obtain ⟨-, -, hbody⟩ := parseFunction_eq_ok.mp hparse
    obtain ⟨tokens, -, hwrites⟩ := parseBody_eq_ok.mp hbody
    exact hwrites.isLimited
  · obtain ⟨highest, hparse⟩ := exists_source_tallest (Nat.le_refl maxNesting)
    exact ⟨highest, tallest 63, hparse, height_tallest 63⟩

/-- An index with as many operators behind it as the limit allows is higher than the limit. -/
theorem higher_trees_are_read :
    let source := "x[1]" ++ String.join (List.replicate 63 "%1")
    let expr := chainOf (.index "x" (.literal 1)) 63
    parseExpression source = .ok expr ∧ expr.height = 65 ∧ maxNesting = 64 := by
  intro source expr
  exact ⟨by decide +kernel, height_chainOf _ _, rfl⟩

end StreamLinks.Cipher
