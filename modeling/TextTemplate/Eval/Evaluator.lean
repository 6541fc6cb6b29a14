import TextTemplate.Eval.Access
import TextTemplate.Eval.Operators
import TextTemplate.Library.Standard

/-!
# Evaluation

`Scope.eval` walks a tree and evaluates it in a context. Each level of nesting counts against the
depth that the scope allows. Calling a closure begins a walk of its own, whose depth is counted
afresh; how many such calls may be within each other is bounded by a budget, which `invokeWithin`
spends.
-/

namespace TextTemplate

/-- What an evaluation depends on beside the tree. -/
structure Scope where
  context : Context
  resolver : Resolver
  /-- The nesting that the evaluation may reach. -/
  maxDepth : Nat

/-- What the trees of a sequence may call. -/
structure Calls where
  host : Host
  invoke : Invoke

namespace Scope

/-- What a reference to a property of a variable shows when it leads nowhere. -/
def placeholder (name key : String) : Value :=
  .str ("@" ++ name ++ "." ++ key)

/-- A property of a variable. It shows itself when the variable is no map, or the property is
missing or null. -/
def variableProperty (context : Context) (name key : String) : Value :=
  match context.get? name with
  | some (.map inner) =>
    match inner.get? key with
    | some value => if value.isNull then placeholder name key else value
    | none => placeholder name key
  | _ => placeholder name key

/-- The bound of a range that a value is. -/
def boundOf : Value → Except Halt Int64
  | .int value => .ok value
  | other => .error (.fault (.invalidRangeBound other.repr))

/-- The range with the given bounds and step. -/
def rangeOf (start stop step : Int64) : Except Halt Value :=
  if step ≤ 0 then .error (.fault (.invalidStep step)) else .ok (.range ⟨start, stop, step⟩)

/-- The value of an operator. -/
def applyOp (op : BinaryOp) (left right : Value) : Except Halt Value :=
  match op.apply left right with
  | .ok value => .ok value
  | .error error => .error (.fault error)

/-- The value of a function call. A failed call shows why it failed. -/
def call (scope : Scope) (calls : Calls) (origin : Origin) (name : String) (args : List Value) :
    Except Halt Value :=
  match scope.resolver.library calls.host calls.invoke ⟨name, args, scope.context, origin⟩ with
  | .ok value => .ok value
  | .error error =>
    match error.message with
    | .ok message => .ok (.str ("ERROR: " ++ message))
    | .error halt => .error halt

mutual
/-- The value of a tree that is nested `depth` levels deep and evaluated as the step `origin`. -/
def evalAt (scope : Scope) (calls : Calls) (depth : Nat) (origin : Origin) (expr : Expr) :
    Except Halt Value :=
  if scope.maxDepth ≤ depth then .error (.fault (.stackOverflow depth scope.maxDepth))
  else
    match expr with
    | .text content => .ok (.str content)
    | .literal literal => .ok literal.value
    | .atom name => .ok ((scope.context.get? name).getD .null)
    | .property subject key =>
      match subject with
      | .atom name => .ok (variableProperty scope.context name key)
      | subject => do
        let subject ← evalAt scope calls (depth + 1) (0 :: origin) subject
        pure (subject.lookup key)
    | .access subject index => do
      let subject ← evalAt scope calls (depth + 1) (0 :: origin) subject
      let index ← evalAt scope calls (depth + 1) (1 :: origin) index
      pure (subject.access index)
    | .function name args =>
      if name.isEmpty then .error (.fault .missingFunctionName)
      else do
        let values ← evalAllAt scope calls (depth + 1) origin 0 args
        scope.call calls (args.length :: origin) name values
    | .lambda body =>
      .ok (.closure ⟨scope.context, body, scope.resolver, scope.maxDepth, origin⟩)
    | .capture index => .ok (scope.context.capture index)
    | .range start stop step => do
      let start ← evalAt scope calls (depth + 1) (0 :: origin) start
      let start ← boundOf start
      let stop ← evalAt scope calls (depth + 1) (1 :: origin) stop
      let stop ← boundOf stop
      let step ← evalStepAt scope calls (depth + 1) (2 :: origin) step
      rangeOf start stop step
    | .list items => do
      let values ← evalAllAt scope calls (depth + 1) origin 0 items
      pure (.list values)
    | .binary op left right => do
      let left ← evalAt scope calls (depth + 1) (0 :: origin) left
      let right ← evalAt scope calls (depth + 1) (1 :: origin) right
      applyOp op left right

/-- The values of trees in their order, as the steps of `origin` from `index` on. -/
def evalAllAt (scope : Scope) (calls : Calls) (depth : Nat) (origin : Origin) (index : Nat)
    (exprs : List Expr) : Except Halt (List Value) :=
  match exprs with
  | [] => .ok []
  | expr :: exprs => do
    let value ← evalAt scope calls depth (index :: origin) expr
    let values ← evalAllAt scope calls depth origin (index + 1) exprs
    pure (value :: values)

/-- The step of a range; it is one unless it is given. -/
def evalStepAt (scope : Scope) (calls : Calls) (depth : Nat) (origin : Origin)
    (step : Option Expr) : Except Halt Int64 :=
  match step with
  | none => .ok 1
  | some step => do
    let step ← evalAt scope calls depth origin step
    boundOf step
end

/-- The values of the segments of a template, as the steps of `origin` from `index` on. A map that
stands for a value is replaced by it. -/
def evalSegments (scope : Scope) (calls : Calls) (origin : Origin) :
    Nat → List Expr → Except Halt (List Value)
  | _, [] => .ok []
  | index, expr :: exprs => do
    let value ← evalAt scope calls 0 (index :: origin) expr
    let values ← evalSegments scope calls origin (index + 1) exprs
    pure (value.unwrapped :: values)

end Scope

/-- Calls a closure, where closures may be called within each other up to `budget` times. -/
def invokeWithin (host : Host) : Nat → Invoke
  | 0 => fun _ _ _ => .error .exhausted
  | budget + 1 => fun closure args origin => do
    let scope : Scope := ⟨closure.context.withCaptures args, closure.resolver, closure.maxDepth⟩
    let values ← scope.evalSegments ⟨host, invokeWithin host budget⟩ origin 0 closure.body
    match values with
    | [value] => pure value
    | values => throw (.fault (.lambdaArity values.length))

/-- What an evaluation may call when closures may be called within each other up to `budget`
times. -/
def Calls.within (host : Host) (budget : Nat) : Calls :=
  ⟨host, invokeWithin host budget⟩

/-- The value of a tree. -/
def Scope.eval (scope : Scope) (host : Host) (budget : Nat) (origin : Origin) (expr : Expr) :
    Except Halt Value :=
  scope.evalAt (.within host budget) 0 origin expr

/-- The values of the segments of a template. -/
def Scope.evalTemplate (scope : Scope) (host : Host) (budget : Nat) (origin : Origin)
    (template : Template) : Except Halt (List Value) :=
  scope.evalSegments (.within host budget) origin 0 template

end TextTemplate
