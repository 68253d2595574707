import StreamLinks.Proofs.Cipher.Cache

/-!
# Where failures come from

A body fails in what it does itself or in a call that it makes, and which functions it calls
can be read off its text: nothing in an expression is ever skipped, so a body that returns has
made every call up to its first `return`.  What every call says of its function therefore
carries over from the calls with fewer frames left to those with more.
-/

namespace StreamLinks.Cipher

variable {α β σ : Type}

/-! ## The functions that a body calls -/

def Expr.callees : Expr → List String
  | .slice _ start => start.callees
  | .index _ position => position.callees
  | .modulo dividend divisor => dividend.callees ++ divisor.callees
  | .call function _ => [function]
  | _ => []

def Statement.callees : Statement → List String
  | .ret value => value.callees
  | .assign _ value => value.callees
  | .assignAt _ position value => value.callees ++ position.callees

def Statement.returns : Statement → Bool
  | .ret _ => true
  | _ => false

/-- The functions called in a body up to its first `return`. -/
def bodyCallees : List Statement → List String
  | [] => []
  | statement :: rest =>
      statement.callees ++ if statement.returns then [] else bodyCallees rest

/-! ## How computations end -/

/-- Started with the invariant, the computation ends with it; what it returns has
the property `post`, and a failure of it has the property `blame`. -/
def Ends (inv : σ → Prop) (run : ExceptT Error (StateM σ) α) (post : α → Prop)
    (blame : Error → Prop) : Prop :=
  ∀ state, inv state →
    inv (run state).2 ∧ (∀ a, (run state).1 = .ok a → post a) ∧
      ∀ e, (run state).1 = .error e → blame e

namespace Ends

variable {inv : σ → Prop} {post : α → Prop} {blame : Error → Prop}

theorem lift {x : Except Error α} (hok : ∀ a, x = .ok a → post a)
    (herror : ∀ e, x = .error e → blame e) :
    Ends inv (liftM x : ExceptT Error (StateM σ) α) post blame := by
  intro state hstate
  exact ⟨hstate, hok, herror⟩

theorem pure {a : α} (ha : post a) :
    Ends inv (Pure.pure a : ExceptT Error (StateM σ) α) post blame := by
  refine lift (x := .ok a) ?_ ?_
  · intro b hb
    cases hb
    exact ha
  · intro e he
    cases he

theorem throw {e : Error} (he : blame e) :
    Ends inv (MonadExcept.throw e : ExceptT Error (StateM σ) α) post blame := by
  refine lift (x := .error e) ?_ ?_
  · intro a ha
    cases ha
  · intro e' he'
    cases he'
    exact he

theorem bind {run : ExceptT Error (StateM σ) α} {next : α → ExceptT Error (StateM σ) β}
    {post' : β → Prop} (hrun : Ends inv run post blame)
    (hnext : ∀ a, post a → Ends inv (next a) post' blame) :
    Ends inv (run >>= next) post' blame := by
  intro state hstate
  obtain ⟨hafter, hok, herror⟩ := hrun state hstate
  rw [bind_apply]
  cases hcase : run state with
  | mk result after =>
      rw [hcase] at hafter hok herror
      cases result with
      | ok a => exact hnext a (hok a rfl) after hafter
      | error e =>
          refine ⟨hafter, ?_, ?_⟩
          · intro b hb
            cases hb
          · intro e' he'
            cases he'
            exact herror e rfl

theorem imp {run : ExceptT Error (StateM σ) α} {post' : α → Prop} {blame' : Error → Prop}
    (hrun : Ends inv run post blame) (hpost : ∀ a, post a → post' a)
    (hblame : ∀ e, blame e → blame' e) : Ends inv run post' blame' := by
  intro state hstate
  obtain ⟨hafter, hok, herror⟩ := hrun state hstate
  exact ⟨hafter, fun a ha => hpost a (hok a ha), fun e he => hblame e (herror e he)⟩

end Ends

/-! ## Failures of operations -/

/-- The failure is that of an operation: no function is missing or outside the language, and
no limit on open calls is met. -/
def Error.IsOwn : Error → Prop
  | .unsupported _ => False
  | .functionNotFound _ => False
  | .recursionLimit _ => False
  | _ => True

/-- The operation fails in no other way than operations do. -/
def FailsAlone (x : Except Error α) : Prop :=
  ∀ e, x = .error e → e.IsOwn

theorem failsAlone_ok (a : α) : FailsAlone (.ok a) := by
  rintro e ⟨⟩

theorem failsAlone_error {e : Error} (he : e.IsOwn) : FailsAlone (.error e : Except Error α) := by
  rintro e' ⟨⟩
  exact he

theorem Environment.read_failsAlone (env : Environment) (name : String) :
    FailsAlone (env.read name) := by
  unfold Environment.read
  split
  · exact failsAlone_ok _
  · exact failsAlone_error trivial

namespace Value

theorem split_failsAlone (v : Value) : FailsAlone v.split := by
  cases v <;> first | exact failsAlone_ok _ | exact failsAlone_error trivial

theorem reverse_failsAlone (v : Value) : FailsAlone v.reverse := by
  cases v <;> first | exact failsAlone_ok _ | exact failsAlone_error trivial

theorem join_failsAlone (v : Value) : FailsAlone v.join := by
  cases v <;> first | exact failsAlone_ok _ | exact failsAlone_error trivial

theorem length_failsAlone (v : Value) : FailsAlone v.length := by
  cases v <;> first | exact failsAlone_ok _ | exact failsAlone_error trivial

theorem slice_failsAlone (v : Value) (start : Int64) : FailsAlone (v.slice start) := by
  cases v <;> first | exact failsAlone_ok _ | exact failsAlone_error trivial

theorem toElement_failsAlone (v : Value) : FailsAlone v.toElement := by
  cases v <;> first | exact failsAlone_ok _ | exact failsAlone_error trivial

theorem toResult_failsAlone (v : Value) : FailsAlone v.toResult := by
  cases v <;> first | exact failsAlone_ok _ | exact failsAlone_error trivial

theorem toInt_failsAlone (v : Value) (operation : Operation) :
    FailsAlone (v.toInt operation) := by
  cases v with
  | int n => exact failsAlone_ok n
  | str text =>
      unfold toInt
      dsimp only
      split
      · exact failsAlone_ok _
      · exact failsAlone_error trivial
  | seq items => exact failsAlone_error trivial

theorem elementAt_failsAlone (items : List α) (index : Int64) :
    FailsAlone (elementAt items index) := by
  unfold elementAt
  split
  · exact failsAlone_error trivial
  · split
    · exact failsAlone_ok _
    · exact failsAlone_error trivial

theorem itemAt_failsAlone (v : Value) (index : Int64) : FailsAlone (v.itemAt index) := by
  cases v with
  | int n => exact failsAlone_error trivial
  | str text =>
      intro e he
      exact elementAt_failsAlone text.toList index e (map_eq_error.mp he)
  | seq items =>
      intro e he
      exact elementAt_failsAlone items index e (map_eq_error.mp he)

theorem remainder_failsAlone (dividend divisor : Int64) :
    FailsAlone (remainder dividend divisor) := by
  unfold remainder
  split
  · exact failsAlone_error trivial
  · exact failsAlone_ok _

end Value

theorem Environment.writeAt_failsAlone (env : Environment) (target : String) (index : Int64)
    (item : String) : FailsAlone (env.writeAt target index item).1 := by
  unfold Environment.writeAt
  split
  · exact failsAlone_error trivial
  · split
    · split
      · exact failsAlone_error trivial
      · exact failsAlone_ok _
    · exact failsAlone_error trivial
    · exact failsAlone_error trivial

/-! ## Calls made and calls blamed -/

/-- The cache of the frame is faithful to the script. -/
def Faithful (script : String) (frame : Frame) : Prop :=
  FaithfulTo script frame.programs

/-- The body fails on its own, or in a call of one of the functions. -/
def BlamedOn (blame : String → Error → Prop) (callees : List String) (e : Error) : Prop :=
  e.IsOwn ∨ ∃ callee ∈ callees, blame callee e

/-- A call that returns shows that its function is `sound`, and a failure is one that the
function is to `blame` for. -/
def Caller.Shows (script : String) (call : Caller) (sound : String → Prop)
    (blame : String → Error → Prop) : Prop :=
  ∀ name args, Ends (FaithfulTo script) (call name args) (fun _ => sound name) (blame name)

section

variable {script : String} {call : Caller} {sound : String → Prop}
  {blame : String → Error → Prop} {callees others : List String}

theorem BlamedOn.mono {e : Error} (hblames : BlamedOn blame callees e)
    (hsubset : callees ⊆ others) : BlamedOn blame others e := by
  rcases hblames with hown | ⟨callee, hmem, hblame⟩
  · exact .inl hown
  · exact .inr ⟨callee, hsubset hmem, hblame⟩

theorem FailsAlone.ends {inv : σ → Prop} {post : α → Prop} {x : Except Error α}
    (hx : FailsAlone x) (hpost : ∀ a, post a) :
    Ends inv (liftM x : ExceptT Error (StateM σ) α) post (BlamedOn blame callees) :=
  .lift (fun a _ => hpost a) fun e he => .inl (hx e he)

theorem read_ends {post : Value → Prop} (name : String) (hpost : ∀ v, post v) :
    Ends (Faithful script) (Run.read name) post (BlamedOn blame callees) := by
  intro frame hframe
  exact (frame.env.read_failsAlone name).ends hpost frame hframe

theorem write_ends {post : Unit → Prop} (name : String) (value : Value) (hpost : ∀ u, post u) :
    Ends (Faithful script) (Run.write name value) post (BlamedOn blame callees) := by
  intro frame hframe
  refine ⟨hframe, fun u _ => hpost u, ?_⟩
  intro e he
  rw [Run.write_apply] at he
  cases he

theorem writeAt_ends {post : Unit → Prop} (target : String) (index : Int64) (item : String)
    (hpost : ∀ u, post u) :
    Ends (Faithful script) (Run.writeAt target index item) post (BlamedOn blame callees) := by
  intro frame hframe
  rw [Run.writeAt_apply]
  refine ⟨hframe, fun u _ => hpost u, ?_⟩
  exact fun e he => .inl (frame.env.writeAt_failsAlone target index item e he)

theorem args_ends (args : List Arg) :
    Ends (Faithful script) (args.mapM Arg.evaluate) (fun _ => True) (BlamedOn blame callees) := by
  induction args with
  | nil => exact .pure trivial
  | cons arg args ih =>
      have harg : Ends (Faithful script) arg.evaluate (fun _ => True)
          (BlamedOn blame callees) := by
        cases arg with
        | literal n => exact .pure trivial
        | «variable» name => exact read_ends name fun _ => trivial
      rw [List.mapM_cons]
      exact harg.bind fun v _ => ih.bind fun values _ => .pure trivial

variable (hcall : call.Shows script sound blame)

include hcall

/-- All calls in an expression are made before it has a value. -/
theorem Expr.evaluate_ends (expr : Expr) :
    Ends (Faithful script) (expr.evaluate call) (fun _ => ∀ callee ∈ expr.callees, sound callee)
      (BlamedOn blame expr.callees) := by
  induction expr with
  | literal n => exact .pure (by simp [Expr.callees])
  | «variable» name => exact read_ends name (by simp [Expr.callees])
  | split object =>
      refine (read_ends object fun _ => trivial).bind fun v _ => ?_
      exact v.split_failsAlone.ends (by simp [Expr.callees])
  | reverse object =>
      refine (read_ends object fun _ => trivial).bind fun v _ => ?_
      refine (v.reverse_failsAlone.ends fun _ => trivial).bind fun reversed _ => ?_
      refine (write_ends object reversed fun _ => trivial).bind fun _ _ => ?_
      exact .pure (by simp [Expr.callees])
  | join object =>
      refine (read_ends object fun _ => trivial).bind fun v _ => ?_
      exact v.join_failsAlone.ends (by simp [Expr.callees])
  | length object =>
      refine (read_ends object fun _ => trivial).bind fun v _ => ?_
      exact v.length_failsAlone.ends (by simp [Expr.callees])
  | slice object start ih =>
      refine Ends.bind ih fun u hstart => ?_
      refine ((u.toInt_failsAlone _).ends fun _ => trivial).bind fun n _ => ?_
      refine (read_ends object fun _ => trivial).bind fun v _ => ?_
      exact (v.slice_failsAlone n).ends fun _ => hstart
  | index object position ih =>
      refine Ends.bind ih fun u hposition => ?_
      refine ((u.toInt_failsAlone _).ends fun _ => trivial).bind fun n _ => ?_
      refine (read_ends object fun _ => trivial).bind fun v _ => ?_
      exact (v.itemAt_failsAlone n).ends fun _ => hposition
  | modulo dividend divisor ihDividend ihDivisor =>
      have hleft := fun e (he : BlamedOn blame dividend.callees e) =>
        he.mono (List.subset_append_left dividend.callees divisor.callees)
      have hright := fun e (he : BlamedOn blame divisor.callees e) =>
        he.mono (List.subset_append_right dividend.callees divisor.callees)
      refine (ihDividend.imp (fun _ => id) hleft).bind fun u hdividend => ?_
      refine ((u.toInt_failsAlone _).ends fun _ => trivial).bind fun m _ => ?_
      refine (ihDivisor.imp (fun _ => id) hright).bind fun v hdivisor => ?_
      refine ((v.toInt_failsAlone _).ends fun _ => trivial).bind fun n _ => ?_
      refine (Value.remainder_failsAlone m n).ends fun _ => ?_
      exact List.forall_mem_append.mpr ⟨hdividend, hdivisor⟩
  | call function args =>
      refine (args_ends args).bind fun values _ => ?_
      intro frame hframe
      obtain ⟨hafter, hok, herror⟩ := hcall function values frame.programs hframe
      -- The callee has its own variables: of what it did only the cache is left.
      refine ⟨hafter, ?_, ?_⟩
      · intro v hv callee hmem
        rw [List.mem_singleton.mp hmem]
        exact hok v hv
      · intro e he
        exact .inr ⟨function, List.mem_singleton_self function, herror e he⟩

theorem Statement.execute_ends (statement : Statement) :
    Ends (Faithful script) (statement.execute call)
      (fun result => (∀ callee ∈ statement.callees, sound callee) ∧
        result.isSome = statement.returns)
      (BlamedOn blame statement.callees) := by
  cases statement with
  | ret value =>
      exact (value.evaluate_ends hcall).bind fun v hvalue => .pure ⟨hvalue, rfl⟩
  | assign target value =>
      refine (value.evaluate_ends hcall).bind fun v hvalue => ?_
      exact (write_ends target v fun _ => trivial).bind fun _ _ => .pure ⟨hvalue, rfl⟩
  | assignAt target position value =>
      have hleft := fun e (he : BlamedOn blame value.callees e) =>
        he.mono (List.subset_append_left value.callees position.callees)
      have hright := fun e (he : BlamedOn blame position.callees e) =>
        he.mono (List.subset_append_right value.callees position.callees)
      refine ((value.evaluate_ends hcall).imp (fun _ => id) hleft).bind fun v hvalue => ?_
      refine ((position.evaluate_ends hcall).imp (fun _ => id) hright).bind
        fun u hposition => ?_
      refine ((u.toInt_failsAlone _).ends fun _ => trivial).bind fun index _ => ?_
      refine (v.toElement_failsAlone.ends fun _ => trivial).bind fun item _ => ?_
      refine (writeAt_ends target index item fun _ => trivial).bind fun _ _ => .pure ⟨?_, rfl⟩
      exact List.forall_mem_append.mpr ⟨hvalue, hposition⟩

/-- All calls up to the first `return` are made before a body ends. -/
theorem executeAll_ends (body : List Statement) :
    Ends (Faithful script) (executeAll call body)
      (fun _ => ∀ callee ∈ bodyCallees body, sound callee) (BlamedOn blame (bodyCallees body)) := by
  induction body with
  | nil => exact .pure (by simp [bodyCallees])
  | cons statement rest ih =>
      have hfirst : ∀ e, BlamedOn blame statement.callees e →
          BlamedOn blame (bodyCallees (statement :: rest)) e :=
        fun e he => he.mono (List.subset_append_left _ _)
      refine ((statement.execute_ends hcall).imp (fun _ => id) hfirst).bind fun result hresult => ?_
      obtain ⟨hcallees, hreturns⟩ := hresult
      cases result with
      | some v =>
          have hstop : bodyCallees (statement :: rest) = statement.callees := by
            simp [bodyCallees, ← hreturns]
          rw [hstop]
          exact .pure hcallees
      | none =>
          have hgoOn : bodyCallees (statement :: rest) =
              statement.callees ++ bodyCallees rest := by
            simp [bodyCallees, ← hreturns]
          rw [hgoOn]
          refine ih.imp ?_ fun e he => he.mono (List.subset_append_right _ _)
          exact fun _ hrest => List.forall_mem_append.mpr ⟨hcallees, hrest⟩

theorem Function.run_ends (function : Function) :
    Ends (Faithful script) (function.run call)
      (fun _ => ∀ callee ∈ bodyCallees function.body, sound callee)
      (BlamedOn blame (bodyCallees function.body)) := by
  refine (executeAll_ends hcall function.body).bind fun result hcallees => ?_
  cases result with
  | some v => exact .pure hcallees
  | none => exact .throw (.inl trivial)

end

theorem program_ends (script name : String) :
    Ends (FaithfulTo script) (program script name)
      (fun function => loadFunction script name = .ok function)
      fun e => loadFunction script name = .error e := by
  intro programs hfaithful
  obtain ⟨hresult, hafter⟩ := hfaithful.program name
  rw [hresult]
  exact ⟨hafter, fun function hload => hload, fun e he => he⟩

/-- What is shown by the limit, by functions that cannot be read and by bodies whose calls
show it with one frame less, is shown by every call. -/
theorem callWithin_shows {script : String} {limit : Nat} {sound : Nat → String → Prop}
    {blame : Nat → String → Error → Prop} (hlimit : ∀ name, blame 0 name (.recursionLimit limit))
    (hload : ∀ frames name e, loadFunction script name = .error e → blame (frames + 1) name e)
    (hsound : ∀ frames name function, loadFunction script name = .ok function →
      (∀ callee ∈ bodyCallees function.body, sound frames callee) → sound (frames + 1) name)
    (hblame : ∀ frames name function e, loadFunction script name = .ok function →
      BlamedOn (blame frames) (bodyCallees function.body) e → blame (frames + 1) name e)
    (frames : Nat) :
    (callWithin script limit frames).Shows script (sound frames) (blame frames) := by
  induction frames with
  | zero => exact fun name args => .throw (hlimit name)
  | succ frames ih =>
      intro name args
      refine ((program_ends script name).imp (fun _ h => h) (hload frames name)).bind
        fun function hfunction => ?_
      intro programs hfaithful
      obtain ⟨hafter, hok, herror⟩ :=
        function.run_ends ih ⟨Environment.bind function.params args, programs⟩ hfaithful
      exact ⟨hafter, fun v hv => hsound frames name function hfunction (hok v hv),
        fun e he => hblame frames name function e hfunction (herror e he)⟩

end StreamLinks.Cipher
