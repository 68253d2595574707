import StreamLinks.Cipher.Interpreter
import StreamLinks.Proofs.Outcome

/-!
# How computations act on frames

A computation inside a call is a function of its frame, and one between calls
is a function of the functions read so far.  The equations of this file say
which, one for each way in which such computations are built; later proofs use
them and never look into the monads.
-/

namespace StreamLinks.Cipher

variable {α β σ : Type}

theorem bind_apply (run : ExceptT Error (StateM σ) α) (next : α → ExceptT Error (StateM σ) β)
    (state : σ) :
    (run >>= next) state =
      match run state with
      | (.ok a, after) => next a after
      | (.error e, after) => (.error e, after) := by
  change (ExceptT.bindCont next (run state).1) (run state).2 = _
  obtain ⟨result, after⟩ := run state
  cases result <;> rfl

theorem getThe_apply (state : σ) :
    (getThe σ : ExceptT Error (StateM σ) σ) state = (.ok state, state) := rfl

theorem bind_apply_of_ok {run : ExceptT Error (StateM σ) α}
    {next : α → ExceptT Error (StateM σ) β} {state after : σ} {a : α}
    (hrun : run state = (.ok a, after)) : (run >>= next) state = next a after := by
  rw [bind_apply, hrun]

theorem bind_apply_of_error {run : ExceptT Error (StateM σ) α}
    {next : α → ExceptT Error (StateM σ) β} {state after : σ} {e : Error}
    (hrun : run state = (.error e, after)) : (run >>= next) state = (.error e, after) := by
  rw [bind_apply, hrun]

theorem Environment.read_eq_ok {env : Environment} {name : String} {v : Value} :
    env.read name = .ok v ↔ env.get? name = some v := by
  unfold Environment.read
  cases env.get? name with
  | none => simp
  | some w => simp

namespace Run

theorem lift_apply (x : Except Error α) (frame : Frame) :
    (liftM x : Run α) frame = (x, frame) := rfl

theorem lift_of_ok {x : Except Error α} {a : α} (hx : x = .ok a) (frame : Frame) :
    (liftM x : Run α) frame = (.ok a, frame) := by
  rw [lift_apply, hx]

theorem map_eq_bind (f : α → β) (run : Run α) :
    f <$> run = run >>= fun a => pure (f a) := rfl

theorem read_apply (name : String) (frame : Frame) :
    Run.read name frame = (frame.env.read name, frame) := rfl

theorem write_apply (name : String) (value : Value) (frame : Frame) :
    Run.write name value frame =
      (.ok (), { frame with env := frame.env.put name value }) := rfl

theorem outOfFrame_apply (session : Session α) (frame : Frame) :
    Run.outOfFrame session frame =
      ((session frame.programs).1, { frame with programs := (session frame.programs).2 }) :=
  rfl

end Run

theorem Session.inFrame_apply (env : Environment) (run : Run α) (programs : Programs) :
    Session.inFrame env run programs =
      ((run ⟨env, programs⟩).1, (run ⟨env, programs⟩).2.programs) := rfl

/-! ## Indexed assignment as an operation on the variables alone -/

/-- The variables with an unbound target bound to an empty sequence. -/
def Environment.opened (env : Environment) (target : String) : Environment :=
  if (env.get? target).isNone then env.put target (.seq []) else env

theorem Environment.opened_of_bound {env : Environment} {target : String} {v : Value}
    (hbound : env.get? target = some v) : env.opened target = env := by
  simp [opened, hbound]

theorem Environment.opened_of_unbound {env : Environment} {target : String}
    (hunbound : env.get? target = none) : env.opened target = env.put target (.seq []) := by
  simp [opened, hunbound]

/-- The outcome of an indexed assignment and the variables that it leaves. -/
def Environment.writeAt (env : Environment) (target : String) (index : Int64)
    (item : String) : Except Error Unit × Environment :=
  if index.toInt < 0 then (.error (.indexOutOfRange index 0), env)
  else
    match (env.opened target).get? target with
    | some (.seq items) =>
        if Value.maxGrownLength ≤ index.toInt.toNat then
          (.error (.indexOutOfRange index items.length), env.opened target)
        else
          (.ok (), (env.opened target).put target
            (.seq (Value.replaceElement items index.toInt.toNat item)))
    | some found =>
        (.error (Value.mismatch .indexedAssignment [.sequence] found), env.opened target)
    | none => (.error (.unboundVariable target), env.opened target)

/-- What an indexed assignment does once its target is bound. -/
private def Run.replaceAt (target : String) (index : Int64) (item : String) : Run Unit := do
  match ← Run.read target with
  | .seq items =>
      if Value.maxGrownLength ≤ index.toInt.toNat then
        throw (.indexOutOfRange index items.length)
      Run.write target (.seq (Value.replaceElement items index.toInt.toNat item))
  | found => throw (Value.mismatch .indexedAssignment [.sequence] found)

private theorem Run.replaceAt_apply (target : String) (index : Int64) (item : String)
    (frame : Frame) (hindex : ¬ index.toInt < 0) :
    Run.replaceAt target index item { frame with env := frame.env.opened target } =
      ((frame.env.writeAt target index item).1,
        { frame with env := (frame.env.writeAt target index item).2 }) := by
  rw [Run.replaceAt, bind_apply, read_apply, Environment.read, Environment.writeAt,
    if_neg hindex]
  cases (frame.env.opened target).get? target with
  | none => rfl
  | some found =>
      cases found with
      | int n => rfl
      | str text => rfl
      | seq items =>
          dsimp only
          split <;> rfl

theorem Run.writeAt_apply (target : String) (index : Int64) (item : String) (frame : Frame) :
    Run.writeAt target index item frame =
      ((frame.env.writeAt target index item).1,
        { frame with env := (frame.env.writeAt target index item).2 }) := by
  by_cases hindex : index.toInt < 0
  · simp only [Run.writeAt, Environment.writeAt, if_pos hindex]
    rfl
  · rw [← Run.replaceAt_apply target index item frame hindex, Environment.opened]
    simp only [Run.writeAt, if_neg hindex]
    rw [bind_apply_of_ok (getThe_apply frame)]
    split
    next hunbound =>
      rw [bind_apply_of_ok (Run.write_apply target _ frame)]
      rfl
    next hbound => rfl

/-! ## Functions and calls -/

theorem loadFunction_eq_ok {script name : String} {function : Function} :
    loadFunction script name = .ok function ↔
      ∃ definition, findDefinition? script name = some definition ∧
        parseFunction name definition.params definition.body = .ok function := by
  unfold loadFunction
  cases findDefinition? script name with
  | none => simp
  | some definition => simp [mapError_eq_ok]

theorem program_apply (script name : String) (programs : Programs) :
    program script name programs =
      match programs.get? name with
      | some function => (.ok function, programs)
      | none =>
          match loadFunction script name with
          | .ok function => (.ok function, programs.put name function)
          | .error e => (.error e, programs) := by
  rw [program, bind_apply_of_ok (getThe_apply programs)]
  cases hprograms : programs.get? name with
  | some function => rfl
  | none =>
      dsimp only
      rw [bind_apply]
      cases loadFunction script name <;> rfl

theorem callWithin_succ (script : String) (limit frames : Nat) (name : String)
    (args : List Value) (programs : Programs) :
    callWithin script limit (frames + 1) name args programs =
      match program script name programs with
      | (.ok function, after) =>
          Session.inFrame (Environment.bind function.params args)
            (function.run (callWithin script limit frames)) after
      | (.error e, after) => (.error e, after) := by
  rw [callWithin, bind_apply]
  obtain ⟨result, after⟩ := program script name programs
  cases result <;> rfl

/-- What a computation does to an interpreter is what it does to a frame over its functions. -/
theorem Interpreter.runFrame_eq_iff {interpreter next : Interpreter} {env after : Environment}
    {run : Run α} {result : Except Error α} :
    interpreter.runFrame env run = (result, after, next) ↔
      run ⟨env, interpreter.programs⟩ = (result, ⟨after, next.programs⟩) ∧
        next = { interpreter with programs := next.programs } := by
  unfold runFrame
  obtain ⟨result', after', programs'⟩ := run ⟨env, interpreter.programs⟩
  constructor
  · rintro ⟨⟩
    exact ⟨rfl, rfl⟩
  · rintro ⟨heq, hnext⟩
    cases heq
    rw [hnext]

/-! ## Evaluation one operation at a time -/

section

variable {call : Caller} {frame middle after : Frame} {u v w : Value} {object : String}

theorem read_of_bound {name : String} (hbound : frame.env.get? name = some v) :
    Run.read name frame = (.ok v, frame) := by
  rw [Run.read_apply, Environment.read, hbound]

theorem evaluate_literal (n : Int64) :
    (Expr.literal n).evaluate call frame = (.ok (.int n), frame) := rfl

theorem evaluate_variable {name : String} (hbound : frame.env.get? name = some v) :
    (Expr.variable name).evaluate call frame = (.ok v, frame) :=
  read_of_bound hbound

theorem evaluate_split (hbound : frame.env.get? object = some v) :
    (Expr.split object).evaluate call frame = (v.split, frame) := by
  rw [Expr.evaluate, bind_apply_of_ok (read_of_bound hbound)]
  rfl

theorem evaluate_join (hbound : frame.env.get? object = some v) :
    (Expr.join object).evaluate call frame = (v.join, frame) := by
  rw [Expr.evaluate, bind_apply_of_ok (read_of_bound hbound)]
  rfl

theorem evaluate_length (hbound : frame.env.get? object = some v) :
    (Expr.length object).evaluate call frame = (v.length, frame) := by
  rw [Expr.evaluate, bind_apply_of_ok (read_of_bound hbound)]
  rfl

theorem evaluate_reverse (hbound : frame.env.get? object = some v)
    (hreverse : v.reverse = .ok w) :
    (Expr.reverse object).evaluate call frame =
      (.ok w, { frame with env := frame.env.put object w }) := by
  rw [Expr.evaluate, bind_apply_of_ok (read_of_bound hbound),
    bind_apply_of_ok (Run.lift_of_ok hreverse frame),
    bind_apply_of_ok (Run.write_apply object w frame)]
  rfl

theorem evaluate_slice {start : Expr} {n : Int64}
    (hstart : start.evaluate call frame = (.ok u, after)) (hn : u.toInt .slice = .ok n)
    (hbound : after.env.get? object = some v) :
    (Expr.slice object start).evaluate call frame = (v.slice n, after) := by
  rw [Expr.evaluate, bind_apply_of_ok hstart, bind_apply_of_ok (Run.lift_of_ok hn after),
    bind_apply_of_ok (read_of_bound hbound)]
  rfl

theorem evaluate_index {position : Expr} {n : Int64}
    (hposition : position.evaluate call frame = (.ok u, after)) (hn : u.toInt .index = .ok n)
    (hbound : after.env.get? object = some v) :
    (Expr.index object position).evaluate call frame = (v.itemAt n, after) := by
  rw [Expr.evaluate, bind_apply_of_ok hposition, bind_apply_of_ok (Run.lift_of_ok hn after),
    bind_apply_of_ok (read_of_bound hbound)]
  rfl

theorem evaluate_modulo {dividend divisor : Expr} {m n : Int64}
    (hdividend : dividend.evaluate call frame = (.ok u, middle)) (hm : u.toInt .modulo = .ok m)
    (hdivisor : divisor.evaluate call middle = (.ok v, after)) (hn : v.toInt .modulo = .ok n) :
    (Expr.modulo dividend divisor).evaluate call frame = (Value.remainder m n, after) := by
  rw [Expr.evaluate, bind_apply_of_ok hdividend, bind_apply_of_ok (Run.lift_of_ok hm middle),
    bind_apply_of_ok hdivisor, bind_apply_of_ok (Run.lift_of_ok hn after)]
  rfl

theorem evaluate_call {function : String} {args : List Arg} {values : List Value}
    (hargs : args.mapM Arg.evaluate frame = (.ok values, after)) :
    (Expr.call function args).evaluate call frame =
      ((call function values after.programs).1,
        { after with programs := (call function values after.programs).2 }) := by
  rw [Expr.evaluate, bind_apply_of_ok hargs, Run.outOfFrame_apply]

theorem execute_ret {value : Expr} :
    (Statement.ret value).execute call frame =
      (some <$> (value.evaluate call frame).1, (value.evaluate call frame).2) := by
  rw [Statement.execute, Run.map_eq_bind, bind_apply]
  obtain ⟨result, after⟩ := value.evaluate call frame
  cases result <;> rfl

theorem execute_assign {target : String} {value : Expr}
    (hvalue : value.evaluate call frame = (.ok v, after)) :
    (Statement.assign target value).execute call frame =
      (.ok none, { after with env := after.env.put target v }) := by
  rw [Statement.execute, bind_apply_of_ok hvalue,
    bind_apply_of_ok (Run.write_apply target v after)]
  rfl

theorem execute_assign_of_error {target : String} {value : Expr} {e : Error}
    (hvalue : value.evaluate call frame = (.error e, after)) :
    (Statement.assign target value).execute call frame = (.error e, after) := by
  rw [Statement.execute, bind_apply_of_error hvalue]

/-- What an indexed assignment computes before it looks at its target: the place and the text
that is to go there. -/
def placeAndItem (call : Caller) (position value : Expr) : Run (Int64 × String) := do
  let v ← value.evaluate call
  let index ← (← position.evaluate call).toInt .indexedAssignment
  return (index, ← v.toElement)

theorem placeAndItem_of_ok {item : String} {position value : Expr} {n : Int64}
    (hvalue : value.evaluate call frame = (.ok v, middle))
    (hposition : position.evaluate call middle = (.ok u, after))
    (hn : u.toInt .indexedAssignment = .ok n) (hitem : v.toElement = .ok item) :
    placeAndItem call position value frame = (.ok (n, item), after) := by
  rw [placeAndItem, bind_apply_of_ok hvalue, bind_apply_of_ok hposition,
    bind_apply_of_ok (Run.lift_of_ok hn after), bind_apply_of_ok (Run.lift_of_ok hitem after)]
  rfl

theorem execute_assignAt_eq_bind (call : Caller) (target : String) (position value : Expr) :
    (Statement.assignAt target position value).execute call =
      placeAndItem call position value >>= fun found =>
        Run.writeAt target found.1 found.2 >>= fun _ => pure none := by
  simp only [Statement.execute, placeAndItem, bind_assoc, pure_bind]

theorem execute_assignAt_of_error {target : String} {position value : Expr} {e : Error}
    (hfails : placeAndItem call position value frame = (.error e, after)) :
    (Statement.assignAt target position value).execute call frame = (.error e, after) := by
  rw [execute_assignAt_eq_bind, bind_apply_of_error hfails]

/-- An indexed assignment ends as writing the element does. -/
theorem execute_assignAt_of_ok {target item : String} {position value : Expr} {n : Int64}
    (hfound : placeAndItem call position value frame = (.ok (n, item), after)) :
    (Statement.assignAt target position value).execute call frame =
      ((fun _ => none) <$> (after.env.writeAt target n item).1,
        { after with env := (after.env.writeAt target n item).2 }) := by
  rw [execute_assignAt_eq_bind, bind_apply_of_ok hfound, bind_apply, Run.writeAt_apply]
  cases (after.env.writeAt target n item).1 <;> rfl

theorem execute_assignAt {target item : String} {position value : Expr} {n : Int64}
    {env : Environment} (hvalue : value.evaluate call frame = (.ok v, middle))
    (hposition : position.evaluate call middle = (.ok u, after))
    (hn : u.toInt .indexedAssignment = .ok n) (hitem : v.toElement = .ok item)
    (hwrite : after.env.writeAt target n item = (.ok (), env)) :
    (Statement.assignAt target position value).execute call frame =
      (.ok none, { after with env := env }) := by
  rw [execute_assignAt_of_ok (placeAndItem_of_ok hvalue hposition hn hitem), hwrite]
  rfl

theorem executeAll_cons {statement : Statement} {rest : List Statement}
    (hstatement : statement.execute call frame = (.ok none, after)) :
    executeAll call (statement :: rest) frame = executeAll call rest after := by
  rw [executeAll, bind_apply_of_ok hstatement]

theorem executeAll_cons_of_error {statement : Statement} {rest : List Statement} {e : Error}
    (hstatement : statement.execute call frame = (.error e, after)) :
    executeAll call (statement :: rest) frame = (.error e, after) := by
  rw [executeAll, bind_apply_of_error hstatement]

theorem executeAll_singleton_ret {value : Expr} :
    executeAll call [.ret value] frame =
      (some <$> (value.evaluate call frame).1, (value.evaluate call frame).2) := by
  rw [executeAll, bind_apply, execute_ret]
  obtain ⟨result, after⟩ := value.evaluate call frame
  cases result <;> rfl

theorem run_of_executeAll {function : Function}
    (hbody : executeAll call function.body frame = (.ok (some v), after)) :
    function.run call frame = (.ok v, after) := by
  rw [Function.run, bind_apply_of_ok hbody]
  rfl

theorem run_of_executeAll_error {function : Function} {e : Error}
    (hbody : executeAll call function.body frame = (.error e, after)) :
    function.run call frame = (.error e, after) := by
  rw [Function.run, bind_apply_of_error hbody]

end

end StreamLinks.Cipher
