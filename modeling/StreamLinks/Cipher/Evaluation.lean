import StreamLinks.Cipher.Environment
import StreamLinks.Cipher.Script

/-!
# Running functions

Expressions and statements run over the variables of their own call and over
the functions read so far.  How a call is answered is a parameter of
evaluation, so evaluation recurses on syntax alone; `callWithin` then
recurses on the number of frames that are left.

A failure leaves behind what was done before it: the variables changed and
the functions read stay so.
-/

namespace StreamLinks.Cipher

/-- The functions read from a script so far, by name. -/
abbrev Programs := Dictionary Function

/-- What a call works on: its variables, and the functions read so far. -/
structure Frame where
  env : Environment
  programs : Programs
deriving DecidableEq

/-- A computation inside a call. -/
abbrev Run := ExceptT Error (StateM Frame)

/-- A computation between calls, which have no variables in common. -/
abbrev Session := ExceptT Error (StateM Programs)

/-- How the call of a function with given arguments is answered. -/
abbrev Caller := String → List Value → Session Value

/-- Runs a computation inside a call and keeps the functions that it reads. -/
def Session.inFrame {α : Type} (env : Environment) (run : Run α) : Session α :=
  fun programs =>
    let (result, frame) := run ⟨env, programs⟩
    (result, frame.programs)

/-- Makes a call from inside another one, whose variables it cannot change. -/
def Run.outOfFrame {α : Type} (session : Session α) : Run α :=
  fun frame =>
    let (result, programs) := session frame.programs
    (result, { frame with programs })

def Run.read (name : String) : Run Value := do
  Environment.read (← getThe Frame).env name

def Run.write (name : String) (value : Value) : Run Unit :=
  modifyThe Frame fun frame => { frame with env := frame.env.put name value }

def Arg.evaluate : Arg → Run Value
  | .literal n => pure (.int n)
  | .variable name => Run.read name

/-- The value of an expression.  Positions come before the object they apply
to, operands and arguments from left to right, and a reversed sequence stays
reversed. -/
def Expr.evaluate (call : Caller) : Expr → Run Value
  | .literal n => pure (.int n)
  | .variable name => Run.read name
  | .split object => do (← Run.read object).split
  | .reverse object => do
      let reversed ← (← Run.read object).reverse
      Run.write object reversed
      return reversed
  | .join object => do (← Run.read object).join
  | .length object => do (← Run.read object).length
  | .slice object start => do
      let start ← (← start.evaluate call).toInt .slice
      (← Run.read object).slice start
  | .index object position => do
      let position ← (← position.evaluate call).toInt .index
      (← Run.read object).itemAt position
  | .modulo dividend divisor => do
      let dividend ← (← dividend.evaluate call).toInt .modulo
      let divisor ← (← divisor.evaluate call).toInt .modulo
      Value.remainder dividend divisor
  | .call function args => do
      Run.outOfFrame (call function (← args.mapM Arg.evaluate))

/-- Replaces an element of the sequence that `target` holds.  An unbound
target becomes an empty sequence first.  Positions beyond the end lengthen
the sequence, up to a limit. -/
def Run.writeAt (target : String) (index : Int64) (item : String) : Run Unit := do
  if index.toInt < 0 then throw (.indexOutOfRange index 0)
  if ((← getThe Frame).env.get? target).isNone then Run.write target (.seq [])
  match ← Run.read target with
  | .seq items =>
      let position := index.toInt.toNat
      if Value.maxGrownLength ≤ position then
        throw (.indexOutOfRange index items.length)
      Run.write target (.seq (Value.replaceElement items position item))
  | found => throw (Value.mismatch .indexedAssignment [.sequence] found)

/-- Runs one statement; a value ends the function.  The value assigned comes
before the position. -/
def Statement.execute (call : Caller) : Statement → Run (Option Value)
  | .ret value => some <$> value.evaluate call
  | .assign target value => do
      Run.write target (← value.evaluate call)
      return none
  | .assignAt target position value => do
      let value ← value.evaluate call
      let index ← (← position.evaluate call).toInt .indexedAssignment
      Run.writeAt target index (← value.toElement)
      return none

/-- Runs statements up to the first that ends the function. -/
def executeAll (call : Caller) : List Statement → Run (Option Value)
  | [] => return none
  | statement :: rest => do
      match ← statement.execute call with
      | some value => return some value
      | none => executeAll call rest

/-- Runs the body of a function over the variables at hand. -/
def Function.run (call : Caller) (function : Function) : Run Value := do
  match ← executeAll call function.body with
  | some value => return value
  | none => throw (.missingReturn function.name)

/-- The function of the given name: as read before, or else from the script. -/
def program (script name : String) : Session Function := do
  match (← getThe Programs).get? name with
  | some function => return function
  | none =>
      let function ← loadFunction script name
      modifyThe Programs (·.put name function)
      return function

/-- Calls a function when `frames` more frames may be open at once; `limit`
is the number that was allowed to begin with. -/
def callWithin (script : String) (limit : Nat) : (frames : Nat) → Caller
  | 0, _, _ => throw (.recursionLimit limit)
  | frames + 1, name, args => do
      let function ← program script name
      Session.inFrame (Environment.bind function.params args)
        (function.run (callWithin script limit frames))

end StreamLinks.Cipher
