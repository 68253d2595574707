import StreamLinks.Proofs.Cipher.Execution

/-!
# What happens while a function runs

Variables change by assignments, by indexed assignments and by reversing, and every frame has
its own.  The events of a run are the variables that its frames have one after the other, and
the elements that indexed assignments put into sequences; they are listed in the order of
evaluation, with those of a callee in the place of the call.  What a part of a run starts from
is always what evaluation has made of the parts before it.
-/

namespace StreamLinks.Cipher

variable {α β : Type}

/-- The variables of a frame, or the element that one of them gets in the place `position` of
the sequence `items`. -/
inductive Event where
  | reached (env : Environment)
  | stored (env : Environment) (target : String) (items : List String) (position : Nat)
      (item : String)
deriving DecidableEq

namespace Event

/-- The variables that are there after the event. -/
def env : Event → Environment
  | .reached env => env
  | .stored env target items position item =>
      env.put target (.seq (Value.replaceElement items position item))

def item? : Event → Option String
  | .reached _ => none
  | .stored _ _ _ _ item => some item

/-- The sequence ended before the place that got the element, and has empty elements from there
on now. -/
def grows : Event → Bool
  | .reached _ => false
  | .stored _ _ items position _ => items.length < position

end Event

/-- What happens while the call of a function with given arguments is answered. -/
abbrev Watcher := String → List Value → Programs → List Event

/-- What happens after a computation, unless it fails. -/
def Run.followed (run : Run α) (next : α → Frame → List Event) (frame : Frame) : List Event :=
  match run frame with
  | (.ok a, after) => next a after
  | (.error _, _) => []

def Expr.events (call : Caller) (watch : Watcher) (expr : Expr) (frame : Frame) : List Event :=
  (match expr with
    | .slice _ start => start.events call watch frame
    | .index _ position => position.events call watch frame
    | .modulo dividend divisor =>
        dividend.events call watch frame ++
          (dividend.evaluate call).followed
            (fun u => Run.followed (liftM (u.toInt .modulo)) fun _ => divisor.events call watch)
            frame
    | .call function args =>
        Run.followed (args.mapM Arg.evaluate)
          (fun values after => watch function values after.programs) frame
    | _ => []) ++
    [.reached (expr.evaluate call frame).2.env]

/-- The events of an indexed assignment, which may bind its target first. -/
def Environment.storing (env : Environment) (target : String) (index : Int64) (item : String) :
    List Event :=
  if index.toInt < 0 then []
  else
    .reached (env.opened target) ::
      match (env.opened target).get? target with
      | some (.seq items) =>
          if Value.maxGrownLength ≤ index.toInt.toNat then []
          else [.stored (env.opened target) target items index.toInt.toNat item]
      | _ => []

def Statement.events (call : Caller) (watch : Watcher) (statement : Statement) (frame : Frame) :
    List Event :=
  (match statement with
    | .ret value => value.events call watch frame
    | .assign _ value => value.events call watch frame
    | .assignAt target position value =>
        value.events call watch frame ++
          (value.evaluate call).followed
            (fun v after =>
              position.events call watch after ++
                (position.evaluate call).followed
                  (fun u => Run.followed (liftM (u.toInt .indexedAssignment)) fun index =>
                    Run.followed (liftM v.toElement) fun item last =>
                      last.env.storing target index item)
                  after)
            frame) ++
    [.reached (statement.execute call frame).2.env]

def eventsOfAll (call : Caller) (watch : Watcher) : List Statement → Frame → List Event
  | [], _ => []
  | statement :: rest, frame =>
      statement.events call watch frame ++
        (statement.execute call).followed
          (fun result =>
            match result with
            | some _ => fun _ => []
            | none => eventsOfAll call watch rest)
          frame

/-- What happens in the frame of a call and in those above it, when `frames` more may be open. -/
def eventsWithin (script : String) (limit : Nat) : (frames : Nat) → Watcher
  | 0, _, _, _ => []
  | frames + 1, name, args, programs =>
      match program script name programs with
      | (.ok function, after) =>
          .reached (Environment.bind function.params args) ::
            eventsOfAll (callWithin script limit frames) (eventsWithin script limit frames)
              function.body ⟨Environment.bind function.params args, after⟩
      | (.error _, _) => []

/-- What happens while an interpreter deciphers a text. -/
def Interpreter.events (interpreter : Interpreter) (name scrambled : String) : List Event :=
  eventsWithin interpreter.script interpreter.maxDepth (interpreter.maxDepth - 0) name
    [.str scrambled] interpreter.programs

end StreamLinks.Cipher
