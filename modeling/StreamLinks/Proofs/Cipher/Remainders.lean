import Mathlib.Data.List.Forall2
import StreamLinks.Proofs.Cipher.Execution
import StreamLinks.Proofs.Cipher.Lexing
import StreamLinks.Proofs.Cipher.Parsing

/-!
# Remainders

The remainder of two integers goes with the quotient that is rounded toward zero, so it takes the
sign of the dividend.  It exists for every divisor but zero; the machine division refuses one
more pair, the least integer by minus one, because the quotient does not fit.  A chain of
operators folds to the left, and a fold over outcomes that may be errors ends with the first
operation that fails.
-/

namespace StreamLinks.Cipher

/-- `r` remains of `a` when the division by `b` is rounded toward zero. -/
structure IsTruncatedRemainder (a b r : Int) : Prop where
  quotient : ∃ q, a = b * q + r
  small : r.natAbs < b.natAbs
  sign : r = 0 ∨ r.sign = a.sign

/-- The divisor is zero, or the quotient is the one that does not fit. -/
def HasNoRemainder (a b : Int64) : Prop :=
  b = 0 ∨ (a = Int64.minValue ∧ b = -1)

instance (a b : Int64) : Decidable (HasNoRemainder a b) :=
  inferInstanceAs (Decidable (_ ∨ _))

/-- The remainder of two values that stand for integers. -/
def Value.modulo (dividend divisor : Value) : Except Error Value := do
  remainder (← dividend.toInt .modulo) (← divisor.toInt .modulo)

/-- The tree of `first%x₁%x₂…` for the operands `x₁`, `x₂`, …. -/
def leftChain (first : Expr) (operands : List Expr) : Expr :=
  operands.foldl .modulo first

/-- The text writes the expression, which is no chain itself. -/
def IsOperandText (text : String) (operand : Expr) : Prop :=
  parseExpression text = .ok operand ∧ ∀ dividend divisor, operand ≠ .modulo dividend divisor

/-- Over the variables `env` the expression always has the given outcome, and evaluating it changes
no variable. -/
def Interpreter.Yields (interpreter : Interpreter) (env : Environment) (depth : Nat)
    (expr : Expr) (result : Except Error Value) : Prop :=
  ∀ programs, ∃ next, { interpreter with programs }.evaluate expr env depth = (result, env, next)

/-! ## Integers -/

theorem isTruncatedRemainder_tmod {b : Int} (hb : b ≠ 0) (a : Int) :
    IsTruncatedRemainder a b (a.tmod b) where
  quotient := ⟨a.tdiv b, (Int.mul_tdiv_add_tmod a b).symm⟩
  small := by
    rw [Int.natAbs_tmod]
    exact Nat.mod_lt _ (Int.natAbs_pos.mpr hb)
  sign := by
    have hsign := Int.sign_tmod a b
    split at hsign
    · exact .inl (Int.sign_eq_zero_iff_zero.mp hsign)
    · exact .inr hsign

/-- Two remainders of one division have the same sign, so they differ by less than the divisor. -/
theorem IsTruncatedRemainder.unique {a b r r' : Int} (hr : IsTruncatedRemainder a b r)
    (hr' : IsTruncatedRemainder a b r') : r = r' := by
  obtain ⟨q, hq⟩ := hr.quotient
  obtain ⟨q', hq'⟩ := hr'.quotient
  have hdvd : b ∣ r - r' := by
    refine ⟨q' - q, ?_⟩
    rw [Int.mul_sub]
    omega
  have hclose : (r - r').natAbs < b.natAbs := by
    have hsmall := hr.small
    have hsmall' := hr'.small
    have hsign := hr.sign
    have hsign' := hr'.sign
    rcases Int.lt_trichotomy a 0 with hneg | rfl | hpos
    · rw [Int.sign_eq_neg_one_of_neg hneg] at hsign hsign'
      rw [Int.sign_eq_neg_one_iff_neg] at hsign hsign'
      omega
    · rw [Int.sign_zero] at hsign hsign'
      rw [Int.sign_eq_zero_iff_zero] at hsign hsign'
      omega
    · rw [Int.sign_eq_one_of_pos hpos] at hsign hsign'
      rw [Int.sign_eq_one_iff_pos] at hsign hsign'
      omega
  have hzero := Int.eq_zero_of_dvd_of_natAbs_lt_natAbs hdvd hclose
  omega

theorem remainder_of_none {a b : Int64} (hnone : HasNoRemainder a b) :
    Value.remainder a b = .error .divisionByZero :=
  if_pos hnone

theorem remainder_of_some {a b : Int64} (hsome : ¬ HasNoRemainder a b) :
    ∃ r, Value.remainder a b = .ok (.int r) ∧
      ∀ r', IsTruncatedRemainder a.toInt b.toInt r' ↔ r' = r.toInt := by
  refine ⟨a % b, if_neg hsome, ?_⟩
  have hb : b.toInt ≠ 0 := by
    intro hzero
    exact hsome (.inl (Int64.toInt_inj.mp hzero))
  have htmod := isTruncatedRemainder_tmod hb a.toInt
  rw [Int64.toInt_mod]
  intro r'
  constructor
  · intro hr'
    exact hr'.unique htmod
  · rintro rfl
    exact htmod

/-! ## Values -/

section

variable {u v w : Value} {a b : Int64} {e : Error}

theorem modulo_of_ints (hu : u.toInt .modulo = .ok a) (hw : w.toInt .modulo = .ok b) :
    u.modulo w = Value.remainder a b := by
  rw [Value.modulo, hu, hw]
  rfl

theorem modulo_of_dividend_error (hu : u.toInt .modulo = .error e) : u.modulo w = .error e := by
  rw [Value.modulo, hu]
  rfl

theorem modulo_of_divisor_error (hu : u.toInt .modulo = .ok a) (hw : w.toInt .modulo = .error e) :
    u.modulo w = .error e := by
  rw [Value.modulo, hu, hw]
  rfl

end

/-! ## Evaluating a chain -/

namespace Interpreter

variable {interpreter : Interpreter} {env : Environment} {depth : Nat}
  {dividend divisor expr first : Expr} {operands : List Expr} {result : Except Error Value}
  {u w : Value} {ws : List Value} {e : Error}

theorem yields_iff : interpreter.Yields env depth expr result ↔
    ∀ programs, ∃ after, expr.evaluate (interpreter.caller (depth + 1)) ⟨env, programs⟩ =
      (result, ⟨env, after⟩) := by
  constructor
  · intro hyields programs
    obtain ⟨next, hnext⟩ := hyields programs
    exact ⟨next.programs, (runFrame_eq_iff.mp hnext).1⟩
  · intro hafter programs
    obtain ⟨after, hafter⟩ := hafter programs
    exact ⟨{ interpreter with programs := after }, runFrame_eq_iff.mpr ⟨hafter, rfl⟩⟩

theorem yields_variable {name : String} (hbound : env.get? name = some u) :
    interpreter.Yields env depth (.variable name) (.ok u) := by
  rw [yields_iff]
  intro programs
  exact ⟨programs, read_of_bound hbound⟩

theorem Yields.modulo (hdividend : interpreter.Yields env depth dividend (.ok u))
    (hdivisor : interpreter.Yields env depth divisor (.ok w)) :
    interpreter.Yields env depth (.modulo dividend divisor) (u.modulo w) := by
  rw [yields_iff] at hdividend hdivisor ⊢
  intro programs
  obtain ⟨middle, hu⟩ := hdividend programs
  obtain ⟨after, hw⟩ := hdivisor middle
  rw [Expr.evaluate, bind_apply_of_ok hu]
  cases ha : u.toInt .modulo with
  | error e =>
      rw [modulo_of_dividend_error ha]
      exact ⟨middle, rfl⟩
  | ok a =>
      rw [bind_apply_of_ok (Run.lift_of_ok rfl _), bind_apply_of_ok hw]
      cases hb : w.toInt .modulo with
      | error e =>
          rw [modulo_of_divisor_error ha hb]
          exact ⟨after, rfl⟩
      | ok b =>
          rw [modulo_of_ints ha hb]
          exact ⟨after, rfl⟩

theorem Yields.modulo_of_error (hdividend : interpreter.Yields env depth dividend (.error e))
    (divisor : Expr) : interpreter.Yields env depth (.modulo dividend divisor) (.error e) := by
  rw [yields_iff] at hdividend ⊢
  intro programs
  obtain ⟨after, hfails⟩ := hdividend programs
  refine ⟨after, ?_⟩
  rw [Expr.evaluate, bind_apply_of_error hfails]

/-- Once an operand has failed, so has every chain that goes on from it. -/
theorem Yields.chain_of_error (hfirst : interpreter.Yields env depth first (.error e))
    (operands : List Expr) :
    interpreter.Yields env depth (leftChain first operands) (.error e) := by
  induction operands generalizing first with
  | nil => exact hfirst
  | cons operand operands ih => exact ih (hfirst.modulo_of_error operand)

theorem Yields.chain (hfirst : interpreter.Yields env depth first (.ok u))
    (hoperands : List.Forall₂ (fun operand w => interpreter.Yields env depth operand (.ok w))
      operands ws) :
    interpreter.Yields env depth (leftChain first operands) (ws.foldlM Value.modulo u) := by
  induction hoperands generalizing first u with
  | nil => exact hfirst
  | @cons operand w operands ws hoperand _ ih =>
      have hstep := hfirst.modulo hoperand
      rw [List.foldlM_cons]
      cases hresult : u.modulo w with
      | error e => exact (hresult ▸ hstep).chain_of_error operands
      | ok v => exact ih (hresult ▸ hstep)

end Interpreter

/-! ## Reading a chain -/

/-- The text writes the expression as an operand, and its characters do not join an operator. -/
theorem IsOperandText.exists_tokens {text : String} {operand : Expr}
    (htext : IsOperandText text operand) :
    ∃ tokens, Lexes text.toList tokens ∧ WritesOperand 0 tokens operand ∧
      Meet ['%'] text.toList := by
  obtain ⟨hparse, hoperand⟩ := htext
  obtain ⟨tokens, htokens, ⟨hchain, -⟩⟩ := parseExpression_eq_ok.mp hparse
  have hlexes := tokenize_eq_ok.mp htokens
  cases hchain with
  | modulo hleft hright => exact absurd rfl (hoperand _ _)
  | operand hwrites =>
      refine ⟨tokens, hlexes, hwrites, ?_⟩
      intro last first hlast hfirst hjoins
      cases hlast
      obtain ⟨hpart, -⟩ | ⟨-, rfl⟩ := hjoins
      · exact absurd hpart (by decide)
      · obtain ⟨rest, hrest⟩ := List.head?_eq_some_iff.mp hfirst
        rw [hrest] at hlexes
        obtain ⟨others, rfl⟩ := Lexes.first_mark rfl hlexes
        exact (hwrites.isExprToken _ List.mem_cons_self).elim

/-- Operands behind a chain, each with an operator in front of it, make it longer. -/
theorem exists_chain_tokens {texts : List String} {operands : List Expr}
    (htexts : List.Forall₂ IsOperandText texts operands) {front : List Char}
    {tokens : List Token} {first : Expr} {operators : Nat} (hfront : Lexes front tokens)
    (hfirst : WritesChain 0 operators tokens first) :
    ∃ tokens', Lexes (front ++ texts.flatMap fun text => '%' :: text.toList) tokens' ∧
      WritesChain 0 (operators + operands.length) tokens' (leftChain first operands) := by
  induction htexts generalizing front tokens first operators with
  | nil =>
      rw [List.flatMap_nil, List.append_nil]
      exact ⟨tokens, hfront, hfirst⟩
  | @cons text operand texts operands htext _ ih =>
      obtain ⟨right, hright, hwrites, hmeet⟩ := htext.exists_tokens
      have hpercent : Lexes ['%'] [.percent] := .token (.mark rfl (by simp)) .done
      have hoperator := hpercent.append hright hmeet
      have hwhole := hfront.append hoperator (meet_of_first rfl (by decide) (by decide) front)
      obtain ⟨tokens', hlexes, hchain⟩ := ih hwhole (.modulo hfirst hwrites)
      refine ⟨tokens', ?_, ?_⟩
      · simpa using hlexes
      · rw [List.length_cons, Nat.add_comm operands.length, ← Nat.add_assoc]
        exact hchain

theorem toList_intercalate_percent (text : String) (texts : List String) :
    ("%".intercalate (text :: texts)).toList =
      text.toList ++ texts.flatMap fun text => '%' :: text.toList := by
  rw [String.toList_intercalate, List.map_cons]
  induction texts generalizing text with
  | nil => simp
  | cons next texts ih =>
      rw [List.map_cons, List.intercalate_cons_cons, ih]
      simp

theorem parseExpression_chain {text : String} {texts : List String} {first : Expr}
    {operands : List Expr} (hfirst : IsOperandText text first)
    (hoperands : List.Forall₂ IsOperandText texts operands)
    (hlength : operands.length < maxNesting) :
    parseExpression ("%".intercalate (text :: texts)) = .ok (leftChain first operands) := by
  obtain ⟨front, hfront, hwrites, -⟩ := hfirst.exists_tokens
  obtain ⟨tokens, hlexes, hchain⟩ := exists_chain_tokens hoperands hfront (.operand hwrites)
  refine parseExpression_eq_ok.mpr ⟨tokens, tokenize_eq_ok.mpr ?_, .chain hchain (by omega)⟩
  rwa [toList_intercalate_percent]

/-! ## Remainders and chains of them -/

namespace Interpreter

/-- The remainder of two values that stand for integers is the truncated one, for all pairs of
integers that have one, and a chain of operators folds to the left and ends with the first value
that stands for no integer or the first pair without a remainder. -/
theorem chains_fold_remainders (interpreter : Interpreter) (env : Environment) (depth : Nat) :
    (∀ dividend divisor u w, interpreter.Yields env depth dividend (.ok u) →
      interpreter.Yields env depth divisor (.ok w) →
        interpreter.Yields env depth (.modulo dividend divisor) (u.modulo w)) ∧
    (∀ (u w : Value) a b, u.toInt .modulo = .ok a → w.toInt .modulo = .ok b →
      (u.modulo w = .error .divisionByZero ↔ HasNoRemainder a b) ∧
      (¬ HasNoRemainder a b → ∃ r, u.modulo w = .ok (.int r) ∧
        ∀ r', IsTruncatedRemainder a.toInt b.toInt r' ↔ r' = r.toInt)) ∧
    (∀ (u w : Value) e, u.toInt .modulo = .error e ∨
        (∃ a, u.toInt .modulo = .ok a) ∧ w.toInt .modulo = .error e →
      u.modulo w = .error e) ∧
    (∀ first operands u ws, interpreter.Yields env depth first (.ok u) →
      List.Forall₂ (fun operand w => interpreter.Yields env depth operand (.ok w)) operands ws →
        interpreter.Yields env depth (leftChain first operands) (ws.foldlM Value.modulo u)) ∧
    (∀ text texts first operands, IsOperandText text first →
      List.Forall₂ IsOperandText texts operands → operands.length < maxNesting →
        parseExpression ("%".intercalate (text :: texts)) = .ok (leftChain first operands)) := by
  refine ⟨fun _ _ _ _ hu hw => hu.modulo hw, ?_, ?_, fun _ _ _ _ hu hws => hu.chain hws,
    fun _ _ _ _ => parseExpression_chain⟩
  · intro u w a b hu hw
    rw [modulo_of_ints hu hw]
    by_cases hnone : HasNoRemainder a b
    · rw [remainder_of_none hnone]
      exact ⟨iff_of_true rfl hnone, fun hsome => absurd hnone hsome⟩
    · have hsome := remainder_of_some hnone
      refine ⟨iff_of_false ?_ hnone, fun _ => hsome⟩
      obtain ⟨r, hr, -⟩ := hsome
      simp [hr]
  · rintro u w e (hu | ⟨⟨a, hu⟩, hw⟩)
    · exact modulo_of_dividend_error hu
    · exact modulo_of_divisor_error hu hw

/-- The remainder of a negative number stays negative through a chain. -/
theorem chains_fold_remainders_of_strings :
    let interpreter : Interpreter := { script := "" }
    let env : Environment := Dictionary.ofPairs [("a", .str " -17"), ("b", .int 5), ("c", .str "3")]
    let chain := leftChain (.variable "a") [.variable "b", .variable "c"]
    parseExpression "a%b%c" = .ok chain ∧ interpreter.Yields env 0 chain (.ok (.int (-2))) ∧
      IsTruncatedRemainder (-17) 5 (-2) := by
  intro interpreter env chain
  obtain ⟨-, hpair, -, hchain, hparse⟩ := chains_fold_remainders interpreter env 0
  have hname : ∀ name, parseExpression name = .ok (.variable name) →
      IsOperandText name (.variable name) := fun _ hread => ⟨hread, by simp⟩
  refine ⟨?_, ?_, ?_⟩
  · refine hparse "a" ["b", "c"] _ _ (hname _ (by decide +kernel)) ?_ (by decide)
    exact .cons (hname _ (by decide +kernel)) (.cons (hname _ (by decide +kernel)) .nil)
  · exact hchain _ _ (.str " -17") [.int 5, .str "3"] (yields_variable rfl)
      (.cons (yields_variable rfl) (.cons (yields_variable rfl) .nil))
  · obtain ⟨-, hremainder⟩ := hpair (.str " -17") (.int 5) (-17) 5 rfl rfl
    obtain ⟨r, hr, hunique⟩ := hremainder (by decide)
    cases hr
    exact (hunique _).mpr rfl

/-- The least integer divided by minus one leaves zero, and yet the operation fails. -/
theorem least_integer_has_no_remainder :
    let env : Environment :=
      Dictionary.ofPairs [("a", .str "-9223372036854775808"), ("b", .str "-1")]
    parseExpression "a%b" = .ok (.modulo (.variable "a") (.variable "b")) ∧
      (Value.str "-9223372036854775808").toInt .modulo = .ok Int64.minValue ∧
      (Value.str "-1").toInt .modulo = .ok (-1) ∧ (-1 : Int64) ≠ 0 ∧
      IsTruncatedRemainder Int64.minValue.toInt (-1 : Int64).toInt 0 ∧
      (Interpreter.evaluate { script := "" } (.modulo (.variable "a") (.variable "b")) env 0).1 =
        .error .divisionByZero := by
  intro env
  refine ⟨by decide +kernel, by decide +kernel, by decide +kernel, by decide, ?_,
    by decide +kernel⟩
  exact ⟨⟨9223372036854775808, by decide⟩, by decide, .inl rfl⟩

end Interpreter

end StreamLinks.Cipher
