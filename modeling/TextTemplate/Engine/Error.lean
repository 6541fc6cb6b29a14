import TextTemplate.Eval.Error
import TextTemplate.Expr.ParseError
import TextTemplate.Report.Drawing

/-!
# Engine errors

Why an engine has no answer: the source did not parse, the JSON form of a tree did not decode, or
the evaluation met a fault or a limit.
-/

namespace TextTemplate

/-- Why an engine has no answer. -/
inductive EngineError where
  /-- The source did not parse. -/
  | compilation (diagnostics : List Diagnostic) (source : String)
  | runtime (error : EvalError)
  | resourceExceeded (error : EvalError)
  /-- The JSON form of a tree did not decode. -/
  | malformedTree
  /-- Closures called each other beyond the engine's budget. -/
  | exhausted
deriving DecidableEq, Repr

namespace EngineError

/-- The message of an error. Why the decoder of JSON refuses a tree is its own business: the reason
that it gives is handed in. -/
def message (error : EngineError) (reason : String := "") : String :=
  match error with
  | compilation diagnostics _ =>
    "Compilation failed with " ++ Number.natText diagnostics.length ++ " error(s)"
  | runtime error => "Runtime error: " ++ error.message
  | resourceExceeded error => "Resource limit exceeded: " ++ error.message
  | malformedTree => "Malformed expression tree: " ++ reason
  | exhausted => "Resource limit exceeded: too many closures within each other"

/-- The error of a source that did not parse. -/
def ofParseError (error : ParseError) : EngineError :=
  compilation [error.toDiagnostic] error.source

/-- The error of an evaluation that met a fault. -/
def ofEvalError (error : EvalError) : EngineError :=
  if error.isResourceExceeded then resourceExceeded error else runtime error

/-- The error of an evaluation without a value. -/
def ofHalt : Halt → EngineError
  | .fault error => ofEvalError error
  | .exhausted => exhausted

/-- The error as it is shown to people: diagnostics drawn against the source, and any other error
on one line. -/
def draw (error : EngineError) (reason : String := "") : List Report.Piece :=
  match error with
  | compilation diagnostics source => diagnostics.flatMap (Report.draw source.toList)
  | error => [Report.plain (error.message reason), Report.newline]

end EngineError

end TextTemplate
