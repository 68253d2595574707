import StreamLinks.Proofs.Cipher.Discipline

/-!
# What expressions do to variables

Reversing is the one operation that changes a variable while an expression is evaluated, and it
gives a sequence.  Wherever an expression stands inside another one, an integer is expected, so
the first sequence that is reversed in there ends the evaluation.  Hence an expression that has a
value leaves the variables as they are, unless it is itself the reversal of one of them.
-/

namespace StreamLinks.Cipher

variable {α β : Type}

/-- The variables that are reversed somewhere in an expression. -/
def Expr.reversed : Expr → List String
  | .reverse object => [object]
  | .slice _ start => start.reversed
  | .index _ position => position.reversed
  | .modulo dividend divisor => dividend.reversed ++ divisor.reversed
  | _ => []

/-- The variables that are reversed somewhere in a statement. -/
def Statement.reversed : Statement → List String
  | .ret value => value.reversed
  | .assign _ value => value.reversed
  | .assignAt _ position value => value.reversed ++ position.reversed

def Statement.target? : Statement → Option String
  | .ret _ => none
  | .assign target _ => some target
  | .assignAt target _ _ => some target

/-- The variables `after` are those of `env` with the sequence `items` of one of them reversed. -/
structure Environment.Reverses (env : Environment) (name : String) (items : List String)
    (after : Environment) : Prop where
  held : env.get? name = some (.seq items)
  holds : after.get? name = some (.seq items.reverse)
  others : ∀ other, other ≠ name → after.get? other = env.get? other

theorem Environment.reverses_put {env : Environment} {name : String} {items : List String}
    (hheld : env.get? name = some (.seq items)) :
    env.Reverses name items (env.put name (.seq items.reverse)) where
  held := hheld
  holds := by rw [Dictionary.get?_put, if_pos rfl]
  others := by
    intro other hother
    rw [Dictionary.get?_put, if_neg hother]

/-! ## Computations that spare the variables -/

/-- The computation leaves the variables as they are, unless it fails at the place of an integer
for having reversed the sequence of one of the variables `names` there. -/
def Run.Spares (names : List String) (run : Run α) : Prop :=
  ∀ frame : Frame, (run frame).2.env = frame.env ∨
    ∃ name ∈ names, ∃ items operation, frame.env.Reverses name items (run frame).2.env ∧
      (run frame).1 = .error (.typeMismatch operation [.integer] .sequence)

namespace Run.Spares

variable {names names' : List String} {run : Run α} {next : α → Run β}

theorem mono (hrun : Run.Spares names run) (hsubset : names ⊆ names') :
    Run.Spares names' run := by
  intro frame
  rcases hrun frame with hsame | ⟨name, hmem, hreversed⟩
  · exact .inl hsame
  · exact .inr ⟨name, hsubset hmem, hreversed⟩

theorem env_eq (hrun : Run.Spares [] run) (frame : Frame) : (run frame).2.env = frame.env := by
  rcases hrun frame with hsame | ⟨name, hmem, -⟩
  · exact hsame
  · exact absurd hmem List.not_mem_nil

theorem lift (x : Except Error α) : Run.Spares names (liftM x) := by
  intro frame
  exact .inl rfl

theorem pure (a : α) : Run.Spares names (Pure.pure a) :=
  lift (.ok a)

theorem read (name : String) : Run.Spares names (Run.read name) := by
  intro frame
  exact .inl rfl

theorem outOfFrame (session : Session α) : Run.Spares names (Run.outOfFrame session) := by
  intro frame
  exact .inl rfl

theorem bind (hrun : Run.Spares names run) (hnext : ∀ a, Run.Spares names (next a)) :
    Run.Spares names (run >>= next) := by
  intro frame
  have hfirst := hrun frame
  rw [bind_apply]
  cases hcase : run frame with
  | mk result middle =>
      rw [hcase] at hfirst
      cases result with
      | error e => simpa using hfirst
      | ok a =>
          have hsame : middle.env = frame.env := by simpa using hfirst
          have hsecond := hnext a middle
          rw [hsame] at hsecond
          exact hsecond

theorem args (args : List Arg) : Run.Spares names (args.mapM Arg.evaluate) := by
  induction args with
  | nil => exact .pure []
  | cons arg args ih =>
      have harg : Run.Spares names arg.evaluate := by
        cases arg with
        | literal n => exact .pure _
        | «variable» name => exact .read name
      rw [List.mapM_cons]
      exact harg.bind fun v => ih.bind fun values => .pure _

end Run.Spares

/-! ## Evaluation -/

section

variable {call : Caller} {names : List String}

theorem evaluate_reverse_outcome (call : Caller) (object : String) (frame : Frame) :
    (∃ items, frame.env.Reverses object items ((Expr.reverse object).evaluate call frame).2.env ∧
      ((Expr.reverse object).evaluate call frame).1 = .ok (.seq items.reverse)) ∨
    (∃ e, ((Expr.reverse object).evaluate call frame).1 = .error e) ∧
      ((Expr.reverse object).evaluate call frame).2.env = frame.env := by
  cases hbound : frame.env.get? object with
  | none =>
      have hread : Run.read object frame = (.error (.unboundVariable object), frame) := by
        rw [Run.read_apply, Environment.read, hbound]
      rw [Expr.evaluate, bind_apply_of_error hread]
      exact .inr ⟨⟨_, rfl⟩, rfl⟩
  | some v =>
      cases v with
      | seq items =>
          rw [evaluate_reverse hbound (w := .seq items.reverse) rfl]
          exact .inl ⟨items, Environment.reverses_put hbound, rfl⟩
      | int n =>
          rw [Expr.evaluate, bind_apply_of_ok (read_of_bound hbound)]
          exact .inr ⟨⟨_, rfl⟩, rfl⟩
      | str text =>
          rw [Expr.evaluate, bind_apply_of_ok (read_of_bound hbound)]
          exact .inr ⟨⟨_, rfl⟩, rfl⟩

/-- At the place of an integer a reversed sequence is rejected at once. -/
theorem reverse_as_int_spares {object : String} (hobject : object ∈ names)
    (operation : Operation) (next : Int64 → Run α) :
    Run.Spares names
      ((Expr.reverse object).evaluate call >>= fun u => liftM (u.toInt operation) >>= next) := by
  intro frame
  rw [bind_apply]
  cases hcase : (Expr.reverse object).evaluate call frame with
  | mk result middle =>
      have houtcome := evaluate_reverse_outcome call object frame
      rw [hcase] at houtcome
      rcases houtcome with ⟨items, hreverses, rfl⟩ | ⟨⟨e, rfl⟩, hsame⟩
      · have hrejected : (Value.seq items.reverse).toInt operation =
            .error (.typeMismatch operation [.integer] .sequence) := rfl
        dsimp only
        rw [hrejected]
        exact .inr ⟨object, hobject, items, operation, hreverses, rfl⟩
      · exact .inl hsame

/-- An operand that has to be an integer spares the variables when it does so by itself, or is a
reversal. -/
theorem as_int_spares {operand : Expr} (operation : Operation) {next : Int64 → Run α}
    (hoperand : (∀ object, operand ≠ .reverse object) →
      Run.Spares operand.reversed (operand.evaluate call))
    (hnames : operand.reversed ⊆ names) (hnext : ∀ n, Run.Spares names (next n)) :
    Run.Spares names (operand.evaluate call >>= fun u => liftM (u.toInt operation) >>= next) := by
  by_cases hreversal : ∃ object, operand = .reverse object
  · obtain ⟨object, rfl⟩ := hreversal
    exact reverse_as_int_spares (hnames (List.mem_singleton_self object)) operation next
  · have hspares := hoperand (not_exists.mp hreversal)
    exact (hspares.mono hnames).bind fun u => Run.Spares.bind (.lift _) hnext

/-- Evaluating anything but a reversal spares the variables. -/
theorem Expr.evaluate_spares (call : Caller) (expr : Expr)
    (hexpr : ∀ object, expr ≠ .reverse object) :
    Run.Spares expr.reversed (expr.evaluate call) := by
  induction expr with
  | literal n => exact .pure _
  | «variable» name => exact .read name
  | split object => exact (Run.Spares.read object).bind fun v => .lift _
  | reverse object => exact absurd rfl (hexpr object)
  | join object => exact (Run.Spares.read object).bind fun v => .lift _
  | length object => exact (Run.Spares.read object).bind fun v => .lift _
  | slice object start ih =>
      refine as_int_spares .slice ih (List.Subset.refl _) fun n => ?_
      exact (Run.Spares.read object).bind fun v => .lift _
  | index object position ih =>
      refine as_int_spares .index ih (List.Subset.refl _) fun n => ?_
      exact (Run.Spares.read object).bind fun v => .lift _
  | modulo dividend divisor ihDividend ihDivisor =>
      refine as_int_spares .modulo ihDividend (List.subset_append_left _ _) fun m => ?_
      exact as_int_spares .modulo ihDivisor (List.subset_append_right _ _) fun n => .lift _
  | call function args =>
      exact (Run.Spares.args args).bind fun values => .outOfFrame _

theorem Expr.evaluate_env_of_ok {expr : Expr} (hexpr : ∀ object, expr ≠ .reverse object)
    {frame after : Frame} {v : Value} (hvalue : expr.evaluate call frame = (.ok v, after)) :
    after.env = frame.env := by
  have hspares := expr.evaluate_spares call hexpr frame
  rw [hvalue] at hspares
  simpa using hspares

/-! ## Statements -/

variable {name : String} {held : Option Value}

theorem Expr.evaluate_keeps_variable (call : Caller) {expr : Expr}
    (hname : name ∉ expr.reversed) :
    Keeps (fun frame => frame.env.get? name = held) (expr.evaluate call) fun _ => True := by
  intro frame hheld
  refine ⟨?_, fun _ _ => trivial⟩
  rw [← hheld]
  by_cases hreversal : ∃ object, expr = .reverse object
  · obtain ⟨object, rfl⟩ := hreversal
    rcases evaluate_reverse_outcome call object frame with ⟨items, hreverses, -⟩ | ⟨-, hsame⟩
    · exact hreverses.others name fun heq => hname (List.mem_singleton.mpr heq)
    · rw [hsame]
  · rcases expr.evaluate_spares call (not_exists.mp hreversal) frame with
      hsame | ⟨other, hmem, items, operation, hreverses, -⟩
    · rw [hsame]
    · refine hreverses.others name ?_
      rintro rfl
      exact hname hmem

theorem write_keeps_variable {target : String} (hname : name ≠ target) (v : Value) :
    Keeps (fun frame => frame.env.get? name = held) (Run.write target v) fun _ => True := by
  intro frame hheld
  refine ⟨?_, fun _ _ => trivial⟩
  rw [Run.write_apply, ← hheld]
  exact (Dictionary.get?_put _ _ _ _).trans (if_neg hname)

theorem get?_opened_of_ne (env : Environment) {target : String} (hname : name ≠ target) :
    (env.opened target).get? name = env.get? name := by
  unfold Environment.opened
  split
  · rw [Dictionary.get?_put, if_neg hname]
  · rfl

theorem get?_writeAt_of_ne (env : Environment) {target : String} (hname : name ≠ target)
    (index : Int64) (item : String) :
    (env.writeAt target index item).2.get? name = env.get? name := by
  have hopened := get?_opened_of_ne env hname
  unfold Environment.writeAt
  split
  · rfl
  · split
    · split
      · exact hopened
      · rw [Dictionary.get?_put, if_neg hname, hopened]
    · exact hopened
    · exact hopened

theorem writeAt_keeps_variable {target : String} (hname : name ≠ target) (index : Int64)
    (item : String) :
    Keeps (fun frame => frame.env.get? name = held) (Run.writeAt target index item)
      fun _ => True := by
  intro frame hheld
  refine ⟨?_, fun _ _ => trivial⟩
  rw [Run.writeAt_apply, ← hheld]
  exact get?_writeAt_of_ne frame.env hname index item

/-- A statement changes its target and what it reverses, whether it succeeds or fails. -/
theorem Statement.execute_keeps_variable (call : Caller) {statement : Statement}
    (htarget : name ∉ statement.target?) (hname : name ∉ statement.reversed) :
    Keeps (fun frame => frame.env.get? name = held) (statement.execute call) fun _ => True := by
  cases statement with
  | ret value => exact (value.evaluate_keeps_variable call hname).bind fun v _ => .pure trivial
  | assign target value =>
      have hne : name ≠ target := fun heq => htarget (Option.mem_some_iff.mpr heq.symm)
      refine (value.evaluate_keeps_variable call hname).bind fun v _ => ?_
      exact (write_keeps_variable hne v).bind fun _ _ => .pure trivial
  | assignAt target position value =>
      have hne : name ≠ target := fun heq => htarget (Option.mem_some_iff.mpr heq.symm)
      obtain ⟨hvalue, hposition⟩ := not_or.mp (mt List.mem_append.mpr hname)
      refine (value.evaluate_keeps_variable call hvalue).bind fun v _ => ?_
      refine (position.evaluate_keeps_variable call hposition).bind fun u _ => ?_
      refine Keeps.bind (.lift_any _) fun index _ => Keeps.bind (.lift_any _) fun item _ => ?_
      exact (writeAt_keeps_variable hne index item).bind fun _ _ => .pure trivial

end

namespace Interpreter

/-- Evaluating an expression leaves the variables as they are, unless it is a reversal, or fails
at the place of an integer for a reversal inside it.  A statement changes nothing but its target
and what it reverses, and a call changes nothing in the frame that it is made from. -/
theorem evaluation_only_reverses (interpreter : Interpreter) (env : Environment) (depth : Nat) :
    (∀ expr, let outcome := interpreter.evaluate expr env depth
      (∀ v, outcome.1 = .ok v → (∀ object, expr ≠ .reverse object) → outcome.2.1 = env) ∧
      (∀ v object, outcome.1 = .ok v → expr = .reverse object →
        ∃ items, env.Reverses object items outcome.2.1 ∧ v = .seq items.reverse) ∧
      (∀ e, outcome.1 = .error e → outcome.2.1 = env ∨
        (∀ object, expr ≠ .reverse object) ∧ ∃ name ∈ expr.reversed, ∃ items operation,
          env.Reverses name items outcome.2.1 ∧
            e = .typeMismatch operation [.integer] .sequence)) ∧
    (∀ statement, let outcome := interpreter.execute statement env depth
      ∀ name, name ∉ statement.target? → name ∉ statement.reversed →
        outcome.2.1.get? name = env.get? name) ∧
    (∀ function args, (interpreter.evaluate (.call function args) env depth).2.1 = env) := by
  have hreversal := fun object => evaluate_reverse_outcome (interpreter.caller (depth + 1)) object
    ⟨env, interpreter.programs⟩
  have hother := fun (expr : Expr) hexpr => expr.evaluate_spares (interpreter.caller (depth + 1))
    hexpr ⟨env, interpreter.programs⟩
  refine ⟨?_, ?_, ?_⟩
  · intro expr outcome
    refine ⟨?_, ?_, ?_⟩
    · intro v hv hexpr
      rcases hother expr hexpr with hsame | ⟨name, -, items, operation, -, herror⟩
      · exact hsame
      · exact absurd (hv.symm.trans herror) (by simp)
    · rintro v object hv rfl
      rcases hreversal object with ⟨items, hreverses, hok⟩ | ⟨⟨e, herror⟩, -⟩
      · exact ⟨items, hreverses, Except.ok.inj (hv.symm.trans hok)⟩
      · exact absurd (hv.symm.trans herror) (by simp)
    · intro e he
      by_cases hexpr : ∃ object, expr = .reverse object
      · obtain ⟨object, rfl⟩ := hexpr
        rcases hreversal object with ⟨items, -, hok⟩ | ⟨-, hsame⟩
        · exact absurd (he.symm.trans hok) (by simp)
        · exact .inl hsame
      · have hexpr := not_exists.mp hexpr
        rcases hother expr hexpr with hsame | ⟨name, hmem, items, operation, hreverses, herror⟩
        · exact .inl hsame
        · exact .inr ⟨hexpr, name, hmem, items, operation, hreverses,
            Except.error.inj (he.symm.trans herror)⟩
  · intro statement outcome name htarget hname
    exact (Statement.execute_keeps_variable (interpreter.caller (depth + 1)) htarget hname
      ⟨env, interpreter.programs⟩ rfl).1
  · intro function args
    rcases hother (.call function args) (by simp) with hsame | ⟨name, hmem, -⟩
    · exact hsame
    · cases hmem

end Interpreter

end StreamLinks.Cipher
