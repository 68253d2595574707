import StreamLinks.Dictionary
import StreamLinks.Cipher.Value

/-!
# Variables of a function call

Every call has variables of its own, and blocks open no scope.
-/

namespace StreamLinks.Cipher

/-- The variables of one function call with their values. -/
abbrev Environment := Dictionary Value

namespace Environment

/-- The value of a variable that has to be bound. -/
def read (env : Environment) (name : String) : Except Error Value :=
  match env.get? name with
  | some value => .ok value
  | none => .error (.unboundVariable name)

/-- The parameters bound to the arguments in order.  Parameters without an
argument stay unbound, further arguments are dropped, and of two parameters
with one name the later one counts. -/
def bind (params : List String) (args : List Value) : Environment :=
  Dictionary.ofPairs (params.zip args)

end Environment

end StreamLinks.Cipher
