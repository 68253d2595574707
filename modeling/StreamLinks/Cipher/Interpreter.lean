import StreamLinks.Cipher.Evaluation

/-!
# Interpreters

An interpreter runs the functions of one script and keeps those that it has
read.  What it has read never shows in a result.
-/

namespace StreamLinks.Cipher

/-- The number of frames that may be open at once when nothing else is said. -/
def defaultMaxDepth : Nat := 50

/-- A script, the number of frames that may be open at once, and the functions
read from the script so far. -/
structure Interpreter where
  script : String
  maxDepth : Nat := defaultMaxDepth
  programs : Programs := Dictionary.empty

namespace Interpreter

/-- Runs a computation over the functions read so far. -/
def runSession {α : Type} (interpreter : Interpreter) (session : Session α) :
    Except Error α × Interpreter :=
  let (result, programs) := session interpreter.programs
  (result, { interpreter with programs })

/-- Runs a computation over given variables and the functions read so far. -/
def runFrame {α : Type} (interpreter : Interpreter) (env : Environment) (run : Run α) :
    Except Error α × Environment × Interpreter :=
  let (result, frame) := run ⟨env, interpreter.programs⟩
  (result, frame.env, { interpreter with programs := frame.programs })

/-- How calls are answered from a frame that has `depth` frames below it. -/
def caller (interpreter : Interpreter) (depth : Nat) : Caller :=
  callWithin interpreter.script interpreter.maxDepth (interpreter.maxDepth - depth)

def program (interpreter : Interpreter) (name : String) :
    Except Error Function × Interpreter :=
  interpreter.runSession (Cipher.program interpreter.script name)

/-- Calls a function with `depth` frames open. -/
def callAt (interpreter : Interpreter) (depth : Nat) (name : String) (args : List Value) :
    Except Error Value × Interpreter :=
  interpreter.runSession (interpreter.caller depth name args)

def call (interpreter : Interpreter) (name : String) (args : List Value) :
    Except Error Value × Interpreter :=
  interpreter.callAt 0 name args

/-- The text that a function makes of a scrambled one. -/
def decipher (interpreter : Interpreter) (name scrambled : String) :
    Except Error String × Interpreter :=
  let (result, interpreter) := interpreter.call name [.str scrambled]
  (result.bind Value.toResult, interpreter)

/-- Evaluates an expression in a frame that has `depth` frames below it. -/
def evaluate (interpreter : Interpreter) (expr : Expr) (env : Environment) (depth : Nat) :
    Except Error Value × Environment × Interpreter :=
  interpreter.runFrame env (expr.evaluate (interpreter.caller (depth + 1)))

/-- Executes a statement in a frame that has `depth` frames below it. -/
def execute (interpreter : Interpreter) (statement : Statement) (env : Environment)
    (depth : Nat) : Except Error (Option Value) × Environment × Interpreter :=
  interpreter.runFrame env (statement.execute (interpreter.caller (depth + 1)))

/-- Runs the body of a function in a frame that has `depth` frames below it. -/
def run (interpreter : Interpreter) (function : Function) (env : Environment)
    (depth : Nat) : Except Error Value × Environment × Interpreter :=
  interpreter.runFrame env (function.run (interpreter.caller (depth + 1)))

end Interpreter

end StreamLinks.Cipher
