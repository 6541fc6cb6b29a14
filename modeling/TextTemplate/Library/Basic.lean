import TextTemplate.Eval.Error

/-!
# Function libraries

A library answers calls of functions by name. It is handed the way to call closures, so that
functions such as `map` can apply their arguments. The host application interprets the names of its
own libraries by a `Host`.
-/

namespace TextTemplate

/-- How closures are called: with arguments, as a step of an evaluation. -/
abbrev Invoke := Closure → List Value → Origin → Except Halt Value

/-- A call of a function. -/
structure Call where
  /-- The name as it is written. -/
  name : String
  args : List Value
  /-- The context that the call is evaluated in. -/
  context : Context
  /-- The step of the evaluation that the call is. -/
  origin : Origin

/-- A function library. -/
abbrev Library := Invoke → Call → Except CallError Value

/-- The libraries of the host application by their names. -/
abbrev Host := String → Library

namespace Call

/-- The failure of a call with a wrong number of arguments. -/
def arityError {α : Type} (call : Call) (expected : String) : Except CallError α :=
  .error (.arity call.name expected call.args.length)

/-- The failure of a call with an unsuitable argument. -/
def argumentError {α : Type} (call : Call) (reason : String) : Except CallError α :=
  .error (.invalidArgument call.name reason)

/-- Calls a closure as the step `step` of the call. -/
def invoke (call : Call) (invoke : Invoke) (step : Nat) (closure : Closure) (args : List Value) :
    Except CallError Value :=
  match invoke closure args (step :: call.origin) with
  | .ok value => .ok value
  | .error halt => .error (.halted halt)

end Call

end TextTemplate
