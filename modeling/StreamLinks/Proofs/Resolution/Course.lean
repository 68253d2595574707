import StreamLinks.Resolution.Basic

/-!
# The course of a resolution

A network may answer by all that it was asked before, so what a task does depends
on the requests made before it.  Its course is the requests that it makes itself
and the result that it ends with.  The course of a composed task is put together
from those of its parts, and later proofs never look into the monads.
-/

namespace StreamLinks.Resolution

variable {α β ε : Type} {network : Network} {before made made' : List Request}

theorem runFrom_bind (task : Resolution α) (next : α → Resolution β) (network : Network)
    (trace : Trace) :
    (task >>= next).runFrom network trace =
      match task.runFrom network trace with
      | (.ok a, after) => (next a).runFrom network after
      | (.error e, after) => (.error e, after) := by
  have hbind : (task >>= next).runFrom network trace =
      ExceptT.bindCont (fun a => next a network) (task.runFrom network trace).1
        (task.runFrom network trace).2 := rfl
  rw [hbind]
  obtain ⟨result, after⟩ := task.runFrom network trace
  cases result <;> rfl

/-- After the requests `before` a task makes the requests `made` and ends with
`result`. -/
def Course (network : Network) (before : List Request) (task : Resolution α)
    (made : List Request) (result : Except ResolveError α) : Prop :=
  ∀ events, ∃ told,
    task.runFrom network ⟨before, events⟩ = (result, ⟨before ++ made, events ++ told⟩)

namespace Course

theorem pure (a : α) : Course network before (Pure.pure a) [] (.ok a) := by
  intro events
  refine ⟨[], ?_⟩
  rw [List.append_nil, List.append_nil]
  rfl

theorem throw (error : ResolveError) :
    Course network before (MonadExcept.throw error : Resolution α) [] (.error error) := by
  intro events
  refine ⟨[], ?_⟩
  rw [List.append_nil, List.append_nil]
  rfl

theorem bind {task : Resolution α} {next : α → Resolution β} {a : α}
    {result : Except ResolveError β} (htask : Course network before task made (.ok a))
    (hnext : Course network (before ++ made) (next a) made' result) :
    Course network before (task >>= next) (made ++ made') result := by
  intro events
  obtain ⟨told, hfirst⟩ := htask events
  obtain ⟨told', hsecond⟩ := hnext (events ++ told)
  refine ⟨told ++ told', ?_⟩
  rw [runFrom_bind, hfirst]
  dsimp only
  rw [hsecond, List.append_assoc, List.append_assoc]

theorem bind_error {task : Resolution α} {next : α → Resolution β} {error : ResolveError}
    (htask : Course network before task made (.error error)) :
    Course network before (task >>= next) made (.error error) := by
  intro events
  obtain ⟨told, hfirst⟩ := htask events
  refine ⟨told, ?_⟩
  rw [runFrom_bind, hfirst]

/-- A task is followed by one that makes no requests. -/
theorem andThen {task : Resolution α} {next : α → Resolution β} {x : Except ResolveError α}
    {y : α → Except ResolveError β} (htask : Course network before task made x)
    (hnext : ∀ a, Course network (before ++ made) (next a) [] (y a)) :
    Course network before (task >>= next) made (x >>= y) := by
  cases x with
  | ok a =>
      have hboth := htask.bind (hnext a)
      rwa [List.append_nil] at hboth
  | error error => exact htask.bind_error

/-- A task that makes no requests leaves all of them to the next one. -/
theorem bind_silent {task : Resolution α} {next : α → Resolution β} {a : α}
    {result : Except ResolveError β} (htask : Course network before task [] (.ok a))
    (hnext : Course network before (next a) made result) :
    Course network before (task >>= next) made result := by
  have hnext : Course network (before ++ []) (next a) made result := by
    rwa [List.append_nil]
  exact htask.bind hnext

theorem tell (target : String) (level : Log.Level) (message : String) :
    Course network before (Resolution.tell target level message) [] (.ok ()) := by
  intro events
  refine ⟨[⟨level, message, target⟩], ?_⟩
  rw [List.append_nil]
  rfl

theorem tryGet (url : String) :
    Course network before (Resolution.tryGet url) [⟨.get, url⟩]
      (.ok ((network.get before url).mapError (.request url))) := by
  intro events
  refine ⟨[], ?_⟩
  rw [List.append_nil]
  rfl

theorem tryHead (url : String) :
    Course network before (Resolution.tryHead url) [⟨.head, url⟩]
      (.ok ((network.head before url).mapError (.request url))) := by
  intro events
  refine ⟨[], ?_⟩
  rw [List.append_nil]
  rfl

theorem orFail (reason : ε → ResolveError) (x : Except ε α) :
    Course network before (Resolution.orFail reason x) [] (x.mapError reason) := by
  cases x with
  | ok a => exact Course.pure a
  | error e => exact Course.throw (reason e)

theorem orElseFail (error : ResolveError) (x : Option α) :
    Course network before (Resolution.orElseFail error x) [] (x.elim (.error error) .ok) := by
  cases x with
  | some a => exact Course.pure a
  | none => exact Course.throw error

end Course

/-! ## Texts behind URLs -/

/-- The text that a network has behind a URL after some requests. -/
def pageAfter (network : Network) (before : List Request) (url : String) :
    Except ResolveError String :=
  match network.get before url with
  | .error message => .error (.transport (.request url message))
  | .ok response =>
      if response.isSuccess then .ok response.text
      else .error (.transport (.status url response.status))

theorem Course.fetchText (url : String) :
    Course network before (Resolution.fetchText url) [⟨.get, url⟩]
      (pageAfter network before url) := by
  have hget : Course network before (Resolution.tryGet url) [⟨.get, url⟩]
      (.ok ((network.get before url).mapError (.request url))) := .tryGet url
  unfold Resolution.fetchText pageAfter
  cases hanswer : network.get before url with
  | error message =>
      rw [hanswer] at hget
      exact hget.bind (Course.orFail _ _).bind_error
  | ok response =>
      rw [hanswer] at hget
      dsimp only
      refine hget.bind ((Course.orFail _ _).bind_silent ?_)
      by_cases hsuccess : response.isSuccess = true
      · rw [Response.checked, if_pos hsuccess, if_pos hsuccess]
        exact (Course.orFail _ _).bind_silent (.pure _)
      · rw [Response.checked, if_neg hsuccess, if_neg hsuccess]
        exact (Course.orFail _ _).bind_error

end StreamLinks.Resolution
