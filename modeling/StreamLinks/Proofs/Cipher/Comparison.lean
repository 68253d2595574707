import StreamLinks.Proofs.Cipher.Execution

/-!
# Two runs side by side

Two evaluations of one expression can differ in what has been read before, in
the limit on open calls, or in the script that calls are answered from.  A
comparison fixes which differences are admitted; the theorems of this file carry
it from the calls up to whole functions, so that only the calls themselves need
an argument of their own.
-/

namespace StreamLinks.Cipher

variable {α β σ : Type}

/-- What two runs may differ in.  A failure that is `cut` ends the comparison:
beyond it nothing is asked of the right run. -/
structure Comparison where
  /-- The functions read before on the left and on the right. -/
  programs : Programs → Programs → Prop
  cut : Error → Prop
  /-- Failures on the left and on the right that count as the same. -/
  same : Error → Error → Prop
  same_refl : ∀ e, same e e

namespace Comparison

variable {c : Comparison}

/-- Equal values, or failures that count as the same. -/
def Alike (c : Comparison) : Except Error α → Except Error α → Prop
  | .ok a, .ok b => a = b
  | .error e, .error e' => c.same e e'
  | _, _ => False

theorem Alike.refl (result : Except Error α) : c.Alike result result := by
  cases result with
  | ok a => rfl
  | error e => exact c.same_refl e

/-- Where only equal failures count as the same, like results are equal. -/
theorem Alike.eq {result result' : Except Error α} (hsame : ∀ e e', c.same e e' → e = e')
    (halike : c.Alike result result') : result = result' := by
  cases result <;> cases result'
  next e e' => exact congrArg Except.error (hsame e e' halike)
  next => cases halike
  next => cases halike
  next a b => exact congrArg Except.ok halike

/-- The variables agree, and the functions read before may differ as admitted. -/
def Frames (c : Comparison) (left right : Frame) : Prop :=
  left.env = right.env ∧ c.programs left.programs right.programs

/-- From related states the left computation is cut off, or both end alike and
in related states. -/
def Relates (c : Comparison) (states : σ → σ → Prop)
    (left right : ExceptT Error (StateM σ) α) : Prop :=
  ∀ s t, states s t →
    (∃ e, (left s).1 = .error e ∧ c.cut e) ∨
      c.Alike (left s).1 (right t).1 ∧ states (left s).2 (right t).2

namespace Relates

variable {states : σ → σ → Prop}

theorem lift (x : Except Error α) : c.Relates states (liftM x) (liftM x) := by
  intro s t hstates
  exact .inr ⟨Alike.refl x, hstates⟩

theorem pure (a : α) : c.Relates states (Pure.pure a) (Pure.pure a) :=
  Relates.lift (.ok a)

theorem throw (e : Error) :
    c.Relates states (MonadExcept.throw e : ExceptT Error (StateM σ) α)
      (MonadExcept.throw e) :=
  Relates.lift (.error e)

theorem bind {left right : ExceptT Error (StateM σ) α}
    {next next' : α → ExceptT Error (StateM σ) β} (hfirst : c.Relates states left right)
    (hnext : ∀ a, c.Relates states (next a) (next' a)) :
    c.Relates states (left >>= next) (right >>= next') := by
  intro s t hstates
  have hcase := hfirst s t hstates
  rw [bind_apply, bind_apply]
  cases hleft : left s with
  | mk result after =>
      cases hright : right t with
      | mk result' after' =>
          rw [hleft, hright] at hcase
          rcases hcase with ⟨e, rfl, hcut⟩ | ⟨halike, hafter⟩
          · exact .inl ⟨e, rfl, hcut⟩
          · cases result <;> cases result'
            next e e' => exact .inr ⟨halike, hafter⟩
            next => cases halike
            next => cases halike
            next a b =>
              cases halike
              exact hnext a after after' hafter

end Relates

/-! ## Steps inside a call -/

theorem relates_read (c : Comparison) (name : String) :
    c.Relates c.Frames (Run.read name) (Run.read name) := by
  intro s t hframes
  rw [Run.read_apply, Run.read_apply, hframes.1]
  exact .inr ⟨Alike.refl _, hframes⟩

theorem relates_write (c : Comparison) (name : String) (value : Value) :
    c.Relates c.Frames (Run.write name value) (Run.write name value) := by
  intro s t hframes
  rw [Run.write_apply, Run.write_apply, hframes.1]
  exact .inr ⟨rfl, rfl, hframes.2⟩

theorem relates_writeAt (c : Comparison) (target : String) (index : Int64) (item : String) :
    c.Relates c.Frames (Run.writeAt target index item) (Run.writeAt target index item) := by
  intro s t hframes
  rw [Run.writeAt_apply, Run.writeAt_apply, hframes.1]
  exact .inr ⟨Alike.refl _, rfl, hframes.2⟩

theorem relates_args (c : Comparison) (args : List Arg) :
    c.Relates c.Frames (args.mapM Arg.evaluate) (args.mapM Arg.evaluate) := by
  induction args with
  | nil => exact .pure []
  | cons arg args ih =>
      have harg : c.Relates c.Frames arg.evaluate arg.evaluate := by
        cases arg with
        | literal n => exact .pure _
        | «variable» name => exact c.relates_read name
      rw [List.mapM_cons]
      exact harg.bind fun v => ih.bind fun values => .pure _

theorem relates_outOfFrame {left right : Session α}
    (hsession : c.Relates c.programs left right) :
    c.Relates c.Frames (Run.outOfFrame left) (Run.outOfFrame right) := by
  intro s t hframes
  rw [Run.outOfFrame_apply, Run.outOfFrame_apply]
  rcases hsession s.programs t.programs hframes.2 with hcut | ⟨halike, hprograms⟩
  · exact .inl hcut
  · exact .inr ⟨halike, hframes.1, hprograms⟩

theorem relates_inFrame {left right : Run α} (env : Environment)
    (hrun : c.Relates c.Frames left right) :
    c.Relates c.programs (Session.inFrame env left) (Session.inFrame env right) := by
  intro p q hprograms
  rw [Session.inFrame_apply, Session.inFrame_apply]
  rcases hrun ⟨env, p⟩ ⟨env, q⟩ ⟨rfl, hprograms⟩ with hcut | ⟨halike, hframes⟩
  · exact .inl hcut
  · exact .inr ⟨halike, hframes.2⟩

end Comparison

/-! ## Evaluation -/

/-- The callers answer every call alike. -/
def Caller.Relates (c : Comparison) (left right : Caller) : Prop :=
  ∀ name args, c.Relates c.programs (left name args) (right name args)

section

variable {c : Comparison} {left right : Caller}

theorem Expr.evaluate_relates (hcall : left.Relates c right) (expr : Expr) :
    c.Relates c.Frames (expr.evaluate left) (expr.evaluate right) := by
  induction expr with
  | literal n => exact .pure _
  | «variable» name => exact c.relates_read name
  | split object => exact (c.relates_read object).bind fun v => .lift _
  | reverse object =>
      refine (c.relates_read object).bind fun v => ?_
      refine Comparison.Relates.bind (.lift _) fun reversed => ?_
      exact (c.relates_write object reversed).bind fun _ => .pure _
  | join object => exact (c.relates_read object).bind fun v => .lift _
  | length object => exact (c.relates_read object).bind fun v => .lift _
  | slice object start ih =>
      refine ih.bind fun u => Comparison.Relates.bind (.lift _) fun start => ?_
      exact (c.relates_read object).bind fun v => .lift _
  | index object position ih =>
      refine ih.bind fun u => Comparison.Relates.bind (.lift _) fun index => ?_
      exact (c.relates_read object).bind fun v => .lift _
  | modulo dividend divisor ihDividend ihDivisor =>
      refine ihDividend.bind fun u => Comparison.Relates.bind (.lift _) fun m => ?_
      exact ihDivisor.bind fun v => Comparison.Relates.bind (.lift _) fun n => .lift _
  | call function args =>
      exact (c.relates_args args).bind fun values =>
        Comparison.relates_outOfFrame (hcall function values)

theorem Statement.execute_relates (hcall : left.Relates c right) (statement : Statement) :
    c.Relates c.Frames (statement.execute left) (statement.execute right) := by
  cases statement with
  | ret value => exact (value.evaluate_relates hcall).bind fun v => .pure _
  | assign target value =>
      refine (value.evaluate_relates hcall).bind fun v => ?_
      exact (c.relates_write target v).bind fun _ => .pure _
  | assignAt target position value =>
      refine (value.evaluate_relates hcall).bind fun v => ?_
      refine (position.evaluate_relates hcall).bind fun u => ?_
      refine Comparison.Relates.bind (.lift _) fun index => ?_
      refine Comparison.Relates.bind (.lift _) fun item => ?_
      exact (c.relates_writeAt target index item).bind fun _ => .pure _

theorem executeAll_relates (hcall : left.Relates c right) (body : List Statement) :
    c.Relates c.Frames (executeAll left body) (executeAll right body) := by
  induction body with
  | nil => exact .pure _
  | cons statement rest ih =>
      refine (statement.execute_relates hcall).bind fun result => ?_
      cases result with
      | some v => exact .pure _
      | none => exact ih

theorem Function.run_relates (hcall : left.Relates c right) (function : Function) :
    c.Relates c.Frames (function.run left) (function.run right) := by
  refine (executeAll_relates hcall function.body).bind fun result => ?_
  cases result with
  | some v => exact .pure _
  | none => exact .throw _

end

/-- One more frame on either side changes nothing when the functions are found
alike. -/
theorem callWithin_relates_succ {c : Comparison} {script script' : String}
    (hprogram : ∀ name, c.Relates c.programs (program script name) (program script' name))
    {limit limit' frames frames' : Nat}
    (hcall : (callWithin script limit frames).Relates c (callWithin script' limit' frames')) :
    (callWithin script limit (frames + 1)).Relates c
      (callWithin script' limit' (frames' + 1)) := by
  intro name args
  exact (hprogram name).bind fun function =>
    Comparison.relates_inFrame _ (function.run_relates hcall)

/-- Calls with equally many frames left are answered alike when the functions
are found alike. -/
theorem callWithin_relates {c : Comparison} {script script' : String}
    (hprogram : ∀ name, c.Relates c.programs (program script name) (program script' name))
    (limit frames : Nat) :
    (callWithin script limit frames).Relates c (callWithin script' limit frames) := by
  induction frames with
  | zero =>
      intro name args
      exact .throw _
  | succ frames ih => exact callWithin_relates_succ hprogram ih

end StreamLinks.Cipher
