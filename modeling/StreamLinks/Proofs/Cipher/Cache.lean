import StreamLinks.Proofs.Cipher.Comparison
import StreamLinks.Proofs.Cipher.Discipline

/-!
# The functions read so far never show

An interpreter keeps the functions that it has read, also when the run that
asked for them fails later.  A cache is faithful when each of its functions is
the one that its script defines.  Two runs over faithful caches agree in every
result and in the variables they leave, so whatever has happened on an
interpreter before, a request is answered as it would on a fresh one.
-/

namespace StreamLinks.Cipher

variable {α : Type}

/-- Each function read is the one that the script defines. -/
def FaithfulTo (script : String) (programs : Programs) : Prop :=
  ∀ name function, programs.get? name = some function →
    loadFunction script name = .ok function

theorem faithfulTo_empty (script : String) : FaithfulTo script Dictionary.empty := by
  intro name function h
  simp at h

theorem FaithfulTo.program {script : String} {programs : Programs}
    (hfaithful : FaithfulTo script programs) (name : String) :
    (program script name programs).1 = loadFunction script name ∧
      FaithfulTo script (program script name programs).2 := by
  rw [program_apply]
  cases hget : programs.get? name with
  | some function => exact ⟨(hfaithful name function hget).symm, hfaithful⟩
  | none =>
      cases hload : loadFunction script name with
      | error e => exact ⟨rfl, hfaithful⟩
      | ok function =>
          refine ⟨rfl, ?_⟩
          intro other found hfound
          rw [Dictionary.get?_put] at hfound
          split at hfound
          next heq =>
            cases hfound
            exact heq ▸ hload
          next => exact hfaithful other found hfound

/-- A call runs the function that the script defines. -/
theorem FaithfulTo.callWithin {script name : String} {programs : Programs} {function : Function}
    (hfaithful : FaithfulTo script programs) (hload : loadFunction script name = .ok function)
    (limit frames : Nat) (args : List Value) :
    ∃ after, FaithfulTo script after ∧
      callWithin script limit (frames + 1) name args programs =
        Session.inFrame (Environment.bind function.params args)
          (function.run (callWithin script limit frames)) after := by
  obtain ⟨hresult, hafter⟩ := hfaithful.program name
  cases hprogram : Cipher.program script name programs with
  | mk result after =>
      rw [hprogram] at hresult hafter
      rw [hload] at hresult
      cases hresult
      refine ⟨after, hafter, ?_⟩
      rw [callWithin_succ, hprogram]

/-- Runs over one script with two caches that are both faithful to it. -/
def anyCache (script : String) : Comparison where
  programs p q := FaithfulTo script p ∧ FaithfulTo script q
  cut _ := False
  same := Eq
  same_refl _ := rfl

theorem anyCache_alike {script : String} {result result' : Except Error α}
    (halike : (anyCache script).Alike result result') : result = result' :=
  halike.eq fun _ _ hsame => hsame

/-- Over faithful caches a function is found alike, whatever else a comparison
admits. -/
theorem program_relates_of_faithful {script : String} {c : Comparison}
    (hprograms : c.programs = (anyCache script).programs) (name : String) :
    c.Relates c.programs (program script name) (program script name) := by
  rw [hprograms]
  rintro p q ⟨hp, hq⟩
  obtain ⟨hresult, hafter⟩ := hp.program name
  obtain ⟨hresult', hafter'⟩ := hq.program name
  refine .inr ⟨?_, hafter, hafter'⟩
  rw [hresult, hresult']
  exact Comparison.Alike.refl _

theorem program_relates_anyCache (script name : String) :
    (anyCache script).Relates (anyCache script).programs (program script name)
      (program script name) :=
  program_relates_of_faithful rfl name

theorem callWithin_relates_anyCache (script : String) (limit frames : Nat) :
    (callWithin script limit frames).Relates (anyCache script)
      (callWithin script limit frames) :=
  callWithin_relates (program_relates_anyCache script) limit frames

/-- A property of caches alone, with no demand on values. -/
def cacheDiscipline (inv : Programs → Prop) : Discipline where
  value _ := True
  literal _ := True
  programs := inv
  int_of_literal _ := trivial
  split _ _ := trivial
  reverse _ _ := trivial
  join _ _ := trivial
  length _ _ := trivial
  slice _ _ := trivial
  itemAt _ _ := trivial
  remainder _ _ _ := trivial
  emptySeq := trivial
  replaceElement _ _ _ := trivial

/-- A function once read is kept, whatever is looked up. -/
theorem program_keeps_entry (script name lookedUp : String) (function : Function) :
    Keeps (fun programs : Programs => programs.get? name = some function)
      (program script lookedUp) fun _ => True := by
  intro programs hentry
  refine ⟨?_, fun _ _ => trivial⟩
  rw [program_apply]
  cases hget : programs.get? lookedUp with
  | some found => exact hentry
  | none =>
      cases loadFunction script lookedUp with
      | error e => exact hentry
      | ok found =>
          dsimp only
          rw [Dictionary.get?_put, if_neg]
          · exact hentry
          · rintro rfl
            simp [hget] at hentry

/-! ## Operations on an interpreter -/

/-- What can be asked of an interpreter. -/
inductive Request where
  | program (name : String)
  | call (name : String) (args : List Value)
  | decipher (name scrambled : String)
  | evaluate (expr : Expr) (env : Environment) (depth : Nat)
  | execute (statement : Statement) (env : Environment) (depth : Nat)
  | run (function : Function) (env : Environment) (depth : Nat)

/-- What the answer to a request shows: its result, and the variables that it leaves. -/
inductive Answer where
  | function (result : Except Error Function)
  | value (result : Except Error Value)
  | text (result : Except Error String)
  | valueIn (env : Environment) (result : Except Error Value)
  | returnIn (env : Environment) (result : Except Error (Option Value))

namespace Interpreter

def perform (interpreter : Interpreter) : Request → Answer × Interpreter
  | .program name =>
      let (result, after) := interpreter.program name
      (.function result, after)
  | .call name args =>
      let (result, after) := interpreter.call name args
      (.value result, after)
  | .decipher name scrambled =>
      let (result, after) := interpreter.decipher name scrambled
      (.text result, after)
  | .evaluate expr env depth =>
      let (result, env, after) := interpreter.evaluate expr env depth
      (.valueIn env result, after)
  | .execute statement env depth =>
      let (result, env, after) := interpreter.execute statement env depth
      (.returnIn env result, after)
  | .run function env depth =>
      let (result, env, after) := interpreter.run function env depth
      (.valueIn env result, after)

/-- Answers requests one after the other. -/
def performAll (interpreter : Interpreter) : List Request → List Answer × Interpreter
  | [] => ([], interpreter)
  | request :: rest =>
      let (answer, next) := interpreter.perform request
      let (answers, last) := next.performAll rest
      (answer :: answers, last)

/-- The interpreter before its first request. -/
def fresh (script : String) (limit : Nat) : Interpreter :=
  { script, maxDepth := limit }

/-- The interpreter runs this script under this limit over a faithful cache. -/
structure Serves (interpreter : Interpreter) (script : String) (limit : Nat) : Prop where
  script_eq : interpreter.script = script
  limit_eq : interpreter.maxDepth = limit
  faithful : FaithfulTo script interpreter.programs

variable {script : String} {limit : Nat} {interpreter other : Interpreter}

theorem fresh_serves (script : String) (limit : Nat) :
    (fresh script limit).Serves script limit :=
  ⟨rfl, rfl, faithfulTo_empty script⟩

theorem runSession_agrees {session : Session α}
    (hsession : (anyCache script).Relates (anyCache script).programs session session)
    (hserves : interpreter.Serves script limit) (hother : other.Serves script limit) :
    (interpreter.runSession session).1 = (other.runSession session).1 ∧
      (interpreter.runSession session).2.Serves script limit := by
  rcases hsession _ _ ⟨hserves.faithful, hother.faithful⟩ with ⟨_, _, hcut⟩ | ⟨halike, hafter⟩
  · exact hcut.elim
  · exact ⟨anyCache_alike halike, hserves.script_eq, hserves.limit_eq, hafter.1⟩

theorem runFrame_agrees {run : Run α} (env : Environment)
    (hrun : (anyCache script).Relates (anyCache script).Frames run run)
    (hserves : interpreter.Serves script limit) (hother : other.Serves script limit) :
    (interpreter.runFrame env run).1 = (other.runFrame env run).1 ∧
      (interpreter.runFrame env run).2.1 = (other.runFrame env run).2.1 ∧
      (interpreter.runFrame env run).2.2.Serves script limit := by
  rcases hrun ⟨env, interpreter.programs⟩ ⟨env, other.programs⟩
    ⟨rfl, hserves.faithful, hother.faithful⟩ with ⟨_, _, hcut⟩ | ⟨halike, henv, hafter⟩
  · exact hcut.elim
  · exact ⟨anyCache_alike halike, henv, hserves.script_eq, hserves.limit_eq, hafter.1⟩

theorem Serves.caller_eq (hserves : interpreter.Serves script limit) (depth : Nat) :
    interpreter.caller depth = callWithin script limit (limit - depth) := by
  rw [caller, hserves.script_eq, hserves.limit_eq]

/-- One request is answered alike on all interpreters for one script and limit. -/
theorem perform_agrees (request : Request) (hserves : interpreter.Serves script limit)
    (hother : other.Serves script limit) :
    (interpreter.perform request).1 = (other.perform request).1 ∧
      (interpreter.perform request).2.Serves script limit := by
  have hcall := callWithin_relates_anyCache script limit
  cases request with
  | program name =>
      obtain ⟨hresult, hafter⟩ :=
        runSession_agrees (program_relates_anyCache script name) hserves hother
      simp only [perform, program, hserves.script_eq, hother.script_eq]
      exact ⟨congrArg Answer.function hresult, hafter⟩
  | call name args =>
      obtain ⟨hresult, hafter⟩ := runSession_agrees (hcall (limit - 0) name args) hserves hother
      simp only [perform, call, callAt, hserves.caller_eq, hother.caller_eq]
      exact ⟨congrArg Answer.value hresult, hafter⟩
  | decipher name scrambled =>
      obtain ⟨hresult, hafter⟩ :=
        runSession_agrees (hcall (limit - 0) name [.str scrambled]) hserves hother
      simp only [perform, decipher, call, callAt, hserves.caller_eq, hother.caller_eq]
      exact ⟨congrArg (fun result => Answer.text (result.bind Value.toResult)) hresult, hafter⟩
  | evaluate expr env depth =>
      obtain ⟨hresult, henv, hafter⟩ :=
        runFrame_agrees env (expr.evaluate_relates (hcall (limit - (depth + 1)))) hserves hother
      simp only [perform, evaluate, hserves.caller_eq, hother.caller_eq]
      exact ⟨congr (congrArg Answer.valueIn henv) hresult, hafter⟩
  | execute statement env depth =>
      obtain ⟨hresult, henv, hafter⟩ :=
        runFrame_agrees env (statement.execute_relates (hcall (limit - (depth + 1)))) hserves
          hother
      simp only [perform, execute, hserves.caller_eq, hother.caller_eq]
      exact ⟨congr (congrArg Answer.returnIn henv) hresult, hafter⟩
  | run function env depth =>
      obtain ⟨hresult, henv, hafter⟩ :=
        runFrame_agrees env (function.run_relates (hcall (limit - (depth + 1)))) hserves hother
      simp only [perform, run, hserves.caller_eq, hother.caller_eq]
      exact ⟨congr (congrArg Answer.valueIn henv) hresult, hafter⟩

/-- Every request keeps what every lookup keeps. -/
theorem perform_programs {inv : Programs → Prop} {interpreter : Interpreter}
    (hprogram : ∀ name, Keeps inv (Cipher.program interpreter.script name) fun _ => True)
    (request : Request) (hinv : inv interpreter.programs) :
    inv (interpreter.perform request).2.programs := by
  have hcall : ∀ frames, (callWithin interpreter.script interpreter.maxDepth frames).Keeps
      (cacheDiscipline inv) :=
    callWithin_keeps (fun name => (hprogram name).imp fun _ _ _ _ => trivial) _
  have hframe : ∀ env : Environment,
      (cacheDiscipline inv).Holds ⟨env, interpreter.programs⟩ :=
    fun env => ⟨fun _ _ _ => trivial, hinv⟩
  cases request with
  | program name => exact (hprogram name _ hinv).1
  | call name args => exact (hcall _ name args (fun _ _ => trivial) _ hinv).1
  | decipher name scrambled => exact (hcall _ name _ (fun _ _ => trivial) _ hinv).1
  | evaluate expr env depth =>
      exact (expr.evaluate_keeps (hcall _) (fun _ _ => trivial) _ (hframe env)).1.2
  | execute statement env depth =>
      exact (statement.execute_keeps (hcall _) (fun _ _ => trivial) _ (hframe env)).1.2
  | run function env depth =>
      exact (function.run_keeps (hcall _) (fun _ _ => trivial) _ (hframe env)).1.2

theorem performAll_agrees (requests : List Request)
    (hserves : interpreter.Serves script limit) (hother : other.Serves script limit) :
    (interpreter.performAll requests).1 =
        requests.map (fun request => (other.perform request).1) ∧
      (interpreter.performAll requests).2.Serves script limit := by
  induction requests generalizing interpreter with
  | nil => exact ⟨rfl, hserves⟩
  | cons request rest ih =>
      obtain ⟨hanswer, hnext⟩ := perform_agrees request hserves hother
      obtain ⟨hanswers, hlast⟩ := ih hnext
      refine ⟨?_, hlast⟩
      simp only [performAll, List.map_cons, hanswers, hanswer]

theorem program_of_error {name : String} {e : Error}
    (herror : (interpreter.program name).1 = .error e) :
    (interpreter.program name).2 = interpreter := by
  simp only [program, runSession, program_apply] at herror ⊢
  cases hget : interpreter.programs.get? name with
  | some function => rfl
  | none =>
      cases hload : loadFunction interpreter.script name with
      | ok function => simp [hget, hload] at herror
      | error e' => rfl

/-- Whatever an interpreter has been asked, each request has been answered as on
a fresh one.  The functions that it has read are those that its script
defines, they stay whatever follows, and a lookup that fails changes nothing. -/
theorem programs_never_show (script : String) (limit : Nat) (requests : List Request) :
    let start := fresh script limit
    let reached := (start.performAll requests).2
    (start.performAll requests).1 =
        requests.map (fun request => (start.perform request).1) ∧
      (∀ name function, reached.programs.get? name = some function →
        ∃ definition, findDefinition? script name = some definition ∧
          parseFunction name definition.params definition.body = .ok function) ∧
      (∀ request name function, reached.programs.get? name = some function →
        (reached.perform request).2.programs.get? name = some function) ∧
      (∀ name e, (reached.program name).1 = .error e →
        (reached.program name).2 = reached ∧ reached.programs.get? name = none) := by
  intro start reached
  have hstart := fresh_serves script limit
  obtain ⟨hanswers, hreached⟩ := performAll_agrees requests hstart hstart
  refine ⟨hanswers, ?_, ?_, ?_⟩
  · intro name function hget
    exact loadFunction_eq_ok.mp (hreached.faithful name function hget)
  · intro request name function hget
    exact perform_programs (fun lookedUp => program_keeps_entry _ name lookedUp function)
      request hget
  · intro name e herror
    refine ⟨program_of_error herror, ?_⟩
    cases hget : reached.programs.get? name with
    | none => rfl
    | some function => simp [program, runSession, program_apply, hget] at herror

end Interpreter

end StreamLinks.Cipher
