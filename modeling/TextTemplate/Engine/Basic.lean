import TextTemplate.Engine.Error
import TextTemplate.Engine.Options
import TextTemplate.Engine.Resolvers
import TextTemplate.Eval.Evaluator
import TextTemplate.Expr.Interchange

/-!
# Engines

An engine compiles templates and evaluates them in contexts. Function calls go to its default
resolver, unless the context names another one that has been registered. A compiled template keeps
the resolvers as they were when it was compiled.
-/

namespace TextTemplate

/-- An engine. -/
structure Engine where
  host : Host
  resolvers : Resolvers
  options : EngineOptions

/-- A template that is ready to be evaluated. -/
structure CompiledTemplate where
  source : String
  template : Template
  host : Host
  resolvers : Resolvers
  /-- The nesting that an evaluation may reach. -/
  maxDepth : Nat

/-- Closures may be called within each other up to this many times. -/
def callBudget : Nat := 100000

/-- The value of a tree in a context, as the evaluation `origin`. -/
def Resolvers.eval (resolvers : Resolvers) (host : Host) (maxDepth : Nat) (origin : Origin)
    (context : Context) (expr : Expr) : Except EngineError Value := do
  let resolver ← (resolvers.select context).mapError .ofEvalError
  let scope : Scope := ⟨context, resolver, maxDepth⟩
  (scope.eval host callBudget origin expr).mapError .ofHalt

/-- The values of the segments of a template in a context, as the evaluation `origin`. -/
def Resolvers.evalTemplate (resolvers : Resolvers) (host : Host) (maxDepth : Nat)
    (origin : Origin) (context : Context) (template : Template) :
    Except EngineError (List Value) := do
  let resolver ← (resolvers.select context).mapError .ofEvalError
  let scope : Scope := ⟨context, resolver, maxDepth⟩
  (scope.evalTemplate host callBudget origin template).mapError .ofHalt

namespace CompiledTemplate

/-- The values of the segments in a context, as the evaluation `origin`. -/
def run (compiled : CompiledTemplate) (origin : Origin) (context : Context) :
    Except EngineError (List Value) :=
  compiled.resolvers.evalTemplate compiled.host compiled.maxDepth origin context compiled.template

/-- The text of the template in a context. -/
def runText (compiled : CompiledTemplate) (origin : Origin) (context : Context) :
    Except EngineError String :=
  (compiled.run origin context).map Value.joinedText

end CompiledTemplate

namespace Engine

/-- Registers a resolver that contexts can ask for by the name. -/
def register (engine : Engine) (name : String) (resolver : Resolver) : Engine :=
  { engine with resolvers := engine.resolvers.register name resolver }

/-- The context of host data. -/
def context (engine : Engine) (data : Json) : Context :=
  .ofHostJson engine.options.context data

/-- The template, ready to be evaluated with the resolvers of this moment. -/
def compiled (engine : Engine) (source : String) (template : Template) : CompiledTemplate where
  source := source
  template := template
  host := engine.host
  resolvers := engine.resolvers
  maxDepth := engine.options.maxDepth

/-- Compiles a template. -/
def compile (engine : Engine) (source : String) : Except EngineError CompiledTemplate :=
  match Template.parse source with
  | .ok template => .ok (engine.compiled source template)
  | .error error => .error (.ofParseError error)

/-- Loads a template from its JSON form. -/
def loadJson (engine : Engine) (json : String) : Except EngineError CompiledTemplate :=
  match Template.ofJson? json with
  | some template => .ok (engine.compiled json template)
  | none => .error .malformedTree

/-- The values of the segments of a template. -/
def evaluate (engine : Engine) (origin : Origin) (source : String) (context : Context) :
    Except EngineError (List Value) := do
  let compiled ← engine.compile source
  compiled.run origin context

/-- The text of a template. -/
def evaluateText (engine : Engine) (origin : Origin) (source : String) (context : Context) :
    Except EngineError String := do
  let compiled ← engine.compile source
  compiled.runText origin context

/-- The value of a tree. -/
def evalExpr (engine : Engine) (origin : Origin) (expr : Expr) (context : Context) :
    Except EngineError Value :=
  engine.resolvers.eval engine.host engine.options.maxDepth origin context expr

/-- The values of the segments of a template given as trees. -/
def evalTemplate (engine : Engine) (origin : Origin) (template : Template) (context : Context) :
    Except EngineError (List Value) :=
  engine.resolvers.evalTemplate engine.host engine.options.maxDepth origin context template

/-- The value of a single expression, written without the leading `@`. -/
def evaluateExpression (engine : Engine) (origin : Origin) (source : String) (context : Context) :
    Except EngineError Value := do
  let expr ← (Expr.parse source).mapError .ofParseError
  engine.evalExpr origin expr context

/-- The value of a condition. -/
def evaluateBoolean (engine : Engine) (origin : Origin) (source : String) (context : Context) :
    Except EngineError Bool := do
  match ← engine.evaluateExpression origin source context with
  | .bool value => pure value
  | other => throw (.ofEvalError (.notABoolean other.repr))

end Engine

end TextTemplate
