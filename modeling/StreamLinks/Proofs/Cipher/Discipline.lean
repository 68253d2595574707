import StreamLinks.Proofs.Cipher.Execution

/-!
# Properties that evaluation keeps

A discipline says which values may be held by variables, which integers the
functions of a script may mention, and which functions may have been read.  When
the operations on values respect it, so does everything that a script can do,
whether it succeeds or fails.  Evaluation is gone through once here; whoever
needs an invariant of evaluation only has to look at the operations.
-/

namespace StreamLinks.Cipher

variable {α β σ : Type}

/-! ## Computations that keep an invariant -/

/-- Started with the invariant, the computation ends with it, and what it
returns has the property `post`. -/
def Keeps (inv : σ → Prop) (run : ExceptT Error (StateM σ) α) (post : α → Prop) : Prop :=
  ∀ state, inv state → inv (run state).2 ∧ ∀ a, (run state).1 = .ok a → post a

namespace Keeps

variable {inv : σ → Prop} {post : α → Prop}

theorem pure {a : α} (ha : post a) :
    Keeps inv (Pure.pure a : ExceptT Error (StateM σ) α) post := by
  intro state hstate
  refine ⟨hstate, ?_⟩
  intro b hb
  cases hb
  exact ha

theorem throw (e : Error) :
    Keeps inv (MonadExcept.throw e : ExceptT Error (StateM σ) α) post := by
  intro state hstate
  refine ⟨hstate, ?_⟩
  intro b hb
  cases hb

theorem lift {x : Except Error α} (hx : ∀ a, x = .ok a → post a) :
    Keeps inv (liftM x : ExceptT Error (StateM σ) α) post := by
  intro state hstate
  exact ⟨hstate, hx⟩

theorem lift_any (x : Except Error α) :
    Keeps inv (liftM x : ExceptT Error (StateM σ) α) fun _ => True :=
  lift fun _ _ => trivial

theorem bind {run : ExceptT Error (StateM σ) α} {next : α → ExceptT Error (StateM σ) β}
    {post' : β → Prop} (hrun : Keeps inv run post)
    (hnext : ∀ a, post a → Keeps inv (next a) post') : Keeps inv (run >>= next) post' := by
  intro state hstate
  obtain ⟨hafter, hresult⟩ := hrun state hstate
  rw [bind_apply]
  cases hcase : run state with
  | mk result after =>
      rw [hcase] at hafter hresult
      cases result with
      | ok a => exact hnext a (hresult a rfl) after hafter
      | error e =>
          refine ⟨hafter, ?_⟩
          intro b hb
          cases hb

theorem imp {run : ExceptT Error (StateM σ) α} {post' : α → Prop}
    (hrun : Keeps inv run post) (himp : ∀ a, post a → post' a) : Keeps inv run post' := by
  intro state hstate
  obtain ⟨hafter, hresult⟩ := hrun state hstate
  exact ⟨hafter, fun a ha => himp a (hresult a ha)⟩

end Keeps

/-! ## The integers that a function mentions -/

def Arg.literals : Arg → List Int64
  | .literal value => [value]
  | .variable _ => []

def Expr.literals : Expr → List Int64
  | .literal value => [value]
  | .slice _ start => start.literals
  | .index _ position => position.literals
  | .modulo dividend divisor => dividend.literals ++ divisor.literals
  | .call _ args => args.flatMap Arg.literals
  | _ => []

def Statement.literals : Statement → List Int64
  | .ret value => value.literals
  | .assign _ value => value.literals
  | .assignAt _ position value => position.literals ++ value.literals

def Function.literals (function : Function) : List Int64 :=
  function.body.flatMap Statement.literals

/-! ## Disciplines -/

/-- What variables may hold, which integers functions may mention, and which
functions may have been read; the operations on values respect it. -/
structure Discipline where
  value : Value → Prop
  literal : Int64 → Prop
  programs : Programs → Prop
  int_of_literal : ∀ {n}, literal n → value (.int n)
  split : ∀ {v w}, value v → v.split = .ok w → value w
  reverse : ∀ {v w}, value v → v.reverse = .ok w → value w
  join : ∀ {v w}, value v → v.join = .ok w → value w
  length : ∀ {v w}, value v → v.length = .ok w → value w
  slice : ∀ {v w start}, value v → v.slice start = .ok w → value w
  itemAt : ∀ {v w index}, value v → v.itemAt index = .ok w → value w
  remainder :
    ∀ {v w m n}, value v → v.toInt .modulo = .ok m → Value.remainder m n = .ok w → value w
  emptySeq : value (.seq [])
  replaceElement :
    ∀ {items v item position}, value (.seq items) → value v → v.toElement = .ok item →
      value (.seq (Value.replaceElement items position item))

namespace Discipline

/-- Every variable holds a value of the discipline, and so for the functions. -/
def Holds (d : Discipline) (frame : Frame) : Prop :=
  (∀ name v, frame.env.get? name = some v → d.value v) ∧ d.programs frame.programs

variable {d : Discipline}

theorem Holds.put {frame : Frame} (hframe : d.Holds frame) (name : String) {v : Value}
    (hv : d.value v) : d.Holds { frame with env := frame.env.put name v } := by
  refine ⟨?_, hframe.2⟩
  intro other w hw
  rw [Dictionary.get?_put] at hw
  split at hw
  · cases hw
    exact hv
  · exact hframe.1 other w hw

theorem keeps_read (d : Discipline) (name : String) :
    Keeps d.Holds (Run.read name) d.value := by
  intro frame hframe
  refine ⟨hframe, ?_⟩
  intro v hv
  rw [Run.read_apply] at hv
  exact hframe.1 name v (Environment.read_eq_ok.mp hv)

theorem keeps_write (d : Discipline) (name : String) {v : Value} (hv : d.value v) :
    Keeps d.Holds (Run.write name v) fun _ => True := by
  intro frame hframe
  exact ⟨hframe.put name hv, fun _ _ => trivial⟩

theorem Holds.opened {frame : Frame} (hframe : d.Holds frame) (target : String) :
    d.Holds { frame with env := frame.env.opened target } := by
  unfold Environment.opened
  split
  · exact hframe.put target d.emptySeq
  · exact hframe

theorem keeps_writeAt (d : Discipline) (target : String) (index : Int64) {v : Value}
    {item : String} (hv : d.value v) (hitem : v.toElement = .ok item) :
    Keeps d.Holds (Run.writeAt target index item) fun _ => True := by
  intro frame hframe
  refine ⟨?_, fun _ _ => trivial⟩
  have hopened := hframe.opened target
  rw [Run.writeAt_apply]
  unfold Environment.writeAt
  split
  · exact hframe
  · split
    next items hitems =>
      split
      · exact hopened
      · exact hopened.put target (d.replaceElement (hopened.1 target _ hitems) hv hitem)
    next => exact hopened
    next => exact hopened

theorem keeps_args (d : Discipline) {args : List Arg}
    (hliterals : ∀ n ∈ args.flatMap Arg.literals, d.literal n) :
    Keeps d.Holds (args.mapM Arg.evaluate) fun values => ∀ v ∈ values, d.value v := by
  induction args with
  | nil => exact .pure (by simp)
  | cons arg args ih =>
      simp only [List.flatMap_cons, List.forall_mem_append] at hliterals
      have harg : Keeps d.Holds arg.evaluate d.value := by
        cases arg with
        | literal n => exact .pure (d.int_of_literal (hliterals.1 n (by simp [Arg.literals])))
        | «variable» name => exact d.keeps_read name
      rw [List.mapM_cons]
      refine harg.bind fun v hv => (ih hliterals.2).bind fun values hvalues => .pure ?_
      simpa using And.intro hv hvalues

end Discipline

/-! ## Evaluation -/

/-- The caller keeps the discipline on arguments that have it. -/
def Caller.Keeps (d : Discipline) (call : Caller) : Prop :=
  ∀ name args, (∀ v ∈ args, d.value v) → Cipher.Keeps d.programs (call name args) d.value

section

variable {d : Discipline} {call : Caller}

theorem Expr.evaluate_keeps (hcall : call.Keeps d) (expr : Expr)
    (hliterals : ∀ n ∈ expr.literals, d.literal n) :
    Keeps d.Holds (expr.evaluate call) d.value := by
  induction expr with
  | literal n => exact .pure (d.int_of_literal (hliterals n (by simp [Expr.literals])))
  | «variable» name => exact d.keeps_read name
  | split object =>
      exact (d.keeps_read object).bind fun v hv => .lift fun w hw => d.split hv hw
  | reverse object =>
      refine (d.keeps_read object).bind fun v hv => ?_
      refine Keeps.bind (.lift fun w hw => d.reverse hv hw) fun reversed hreversed => ?_
      exact (d.keeps_write object hreversed).bind fun _ _ => .pure hreversed
  | join object =>
      exact (d.keeps_read object).bind fun v hv => .lift fun w hw => d.join hv hw
  | length object =>
      exact (d.keeps_read object).bind fun v hv => .lift fun w hw => d.length hv hw
  | slice object start ih =>
      refine (ih hliterals).bind fun u _ => ?_
      refine Keeps.bind (.lift_any _) fun start _ => ?_
      exact (d.keeps_read object).bind fun v hv => .lift fun w hw => d.slice hv hw
  | index object position ih =>
      refine (ih hliterals).bind fun u _ => ?_
      refine Keeps.bind (.lift_any _) fun index _ => ?_
      exact (d.keeps_read object).bind fun v hv => .lift fun w hw => d.itemAt hv hw
  | modulo dividend divisor ihDividend ihDivisor =>
      simp only [Expr.literals, List.forall_mem_append] at hliterals
      refine (ihDividend hliterals.1).bind fun u hu => ?_
      refine Keeps.bind (.lift fun _ hm => hm) fun m hm => ?_
      refine (ihDivisor hliterals.2).bind fun v _ => ?_
      refine Keeps.bind (.lift_any _) fun n _ => ?_
      exact .lift fun w hw => d.remainder hu hm hw
  | call function args =>
      refine (d.keeps_args hliterals).bind fun values hvalues => ?_
      intro frame hframe
      obtain ⟨hprograms, hresult⟩ := hcall function values hvalues frame.programs hframe.2
      exact ⟨⟨hframe.1, hprograms⟩, hresult⟩

theorem Statement.execute_keeps (hcall : call.Keeps d) (statement : Statement)
    (hliterals : ∀ n ∈ statement.literals, d.literal n) :
    Keeps d.Holds (statement.execute call) fun result => ∀ v ∈ result, d.value v := by
  cases statement with
  | ret value =>
      refine (value.evaluate_keeps hcall hliterals).bind fun v hv => .pure ?_
      simpa using hv
  | assign target value =>
      refine (value.evaluate_keeps hcall hliterals).bind fun v hv => ?_
      exact (d.keeps_write target hv).bind fun _ _ => .pure (by simp)
  | assignAt target position value =>
      simp only [Statement.literals, List.forall_mem_append] at hliterals
      refine (value.evaluate_keeps hcall hliterals.2).bind fun v hv => ?_
      refine (position.evaluate_keeps hcall hliterals.1).bind fun u _ => ?_
      refine Keeps.bind (.lift_any _) fun index _ => ?_
      refine Keeps.bind (.lift fun _ hitem => hitem) fun item hitem => ?_
      exact (d.keeps_writeAt target index hv hitem).bind fun _ _ => .pure (by simp)

theorem executeAll_keeps (hcall : call.Keeps d) {body : List Statement}
    (hliterals : ∀ n ∈ body.flatMap Statement.literals, d.literal n) :
    Keeps d.Holds (executeAll call body) fun result => ∀ v ∈ result, d.value v := by
  induction body with
  | nil => exact .pure (by simp)
  | cons statement rest ih =>
      simp only [List.flatMap_cons, List.forall_mem_append] at hliterals
      refine (statement.execute_keeps hcall hliterals.1).bind fun result hresult => ?_
      cases result with
      | some v => exact .pure hresult
      | none => exact ih hliterals.2

theorem Function.run_keeps (hcall : call.Keeps d) (function : Function)
    (hliterals : ∀ n ∈ function.literals, d.literal n) :
    Keeps d.Holds (function.run call) d.value := by
  refine (executeAll_keeps hcall hliterals).bind fun result hresult => ?_
  cases result with
  | some v => exact .pure (hresult v rfl)
  | none => exact .throw _

end

theorem Environment.get?_bind_mem {params : List String} {args : List Value} {name : String}
    {v : Value} (hget : (Environment.bind params args).get? name = some v) : v ∈ args := by
  have hputAll : ∀ (pairs : List (String × Value)) (env : Environment),
      (env.putAll pairs).get? name = some v →
        v ∈ pairs.map Prod.snd ∨ env.get? name = some v := by
    intro pairs
    induction pairs with
    | nil =>
        intro env hv
        exact .inr hv
    | cons pair pairs ih =>
        intro env hv
        rcases ih (env.put pair.1 pair.2) hv with hmem | hput
        · exact .inl (List.mem_cons_of_mem _ hmem)
        · rw [Dictionary.get?_put] at hput
          split at hput
          · cases hput
            simp
          · exact .inr hput
  rcases hputAll _ _ hget with hmem | hempty
  · obtain ⟨pair, hpair, rfl⟩ := List.mem_map.mp hmem
    exact (List.of_mem_zip hpair).2
  · simp at hempty

/-- Calls keep a discipline when reading a function does. -/
theorem callWithin_keeps {d : Discipline} {script : String}
    (hprogram : ∀ name, Keeps d.programs (program script name) fun function =>
      ∀ n ∈ function.literals, d.literal n)
    (limit frames : Nat) : (callWithin script limit frames).Keeps d := by
  induction frames with
  | zero =>
      intro name args _
      exact .throw _
  | succ frames ih =>
      intro name args hargs
      refine (hprogram name).bind fun function hliterals => ?_
      intro programs hprograms
      have hframe : d.Holds ⟨Environment.bind function.params args, programs⟩ :=
        ⟨fun other v hv => hargs v (Environment.get?_bind_mem hv), hprograms⟩
      obtain ⟨hafter, hresult⟩ := function.run_keeps ih hliterals _ hframe
      exact ⟨hafter.2, hresult⟩

end StreamLinks.Cipher
