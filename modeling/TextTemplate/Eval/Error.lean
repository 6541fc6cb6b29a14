import TextTemplate.Value.Text

/-!
# Evaluation errors

The faults that end an evaluation, and the failures of function calls. Missing data is no fault: an
absent variable is null. A failed call is rendered in its place, unless it carries a fault.
-/

namespace TextTemplate

/-- The faults that end an evaluation. -/
inductive EvalError where
  /-- A call of a function without a name. -/
  | missingFunctionName
  /-- A numeric operator met an operand, given as it is shown, that is no number. -/
  | notANumber (op : BinaryOp) (shown : String)
  | arithmetic (reason : String)
  /-- The body of a lambda has another number of values than one. -/
  | lambdaArity (count : Nat)
  /-- A bound of a range, given as it is shown, is no integer. -/
  | invalidRangeBound (shown : String)
  | invalidStep (step : Int64)
  | unknownResolver (name : String)
  /-- A condition, given as it is shown, is no truth value. -/
  | notABoolean (shown : String)
  | stackOverflow (depth maxDepth : Nat)
deriving DecidableEq, Repr

namespace EvalError

/-- The message of a fault. -/
def message : EvalError → String
  | missingFunctionName => "function call without a name"
  | notANumber op shown => "operator " ++ op.symbol ++ " expects numbers, got " ++ shown
  | arithmetic reason => "arithmetic error: " ++ reason
  | lambdaArity count =>
    "lambda must produce exactly one value, got " ++ Number.natText count
  | invalidRangeBound shown => "range bounds must be integers, got " ++ shown
  | invalidStep step => "range step must be positive, got " ++ Number.integerText step.toInt
  | unknownResolver name => "no resolver registered under " ++ Text.quoted name
  | notABoolean shown => "expected a boolean result, got " ++ shown
  | stackOverflow depth maxDepth =>
    "Evaluation stack overflow: depth " ++ Number.natText depth ++ " exceeds maximum of " ++
      Number.natText maxDepth

/-- Whether the evaluation ran out of a resource, as opposed to a fault of the template. -/
def isResourceExceeded : EvalError → Bool
  | stackOverflow _ _ => true
  | _ => false

end EvalError

/-- Why an evaluation has no value. -/
inductive Halt where
  | fault (error : EvalError)
  /-- The closures that were to be called within each other were more than the budget for them. -/
  | exhausted
deriving DecidableEq, Repr

/-- Why a call of a function has no value. -/
inductive CallError where
  | unknownFunction (name : String)
  | arity (name expected : String) (got : Nat)
  | invalidArgument (name reason : String)
  | failed (reason : String)
  /-- A closure that the function called has no value; this ends the whole evaluation. -/
  | halted (halt : Halt)
deriving DecidableEq, Repr

namespace CallError

/-- What is shown in place of the value of a failed call, if the evaluation goes on. -/
def message : CallError → Except Halt String
  | unknownFunction name => .ok ("unknown function " ++ Text.quoted name)
  | arity name expected got =>
    .ok (name ++ " expects " ++ expected ++ " argument(s), got " ++ Number.natText got)
  | invalidArgument name reason => .ok (name ++ ": " ++ reason)
  | failed reason => .ok reason
  | halted halt => .error halt

end CallError

end TextTemplate
