import TextTemplate.Grammar.Literal
import TextTemplate.Report.Diagnostic

/-!
# Parse errors

Why a source is no template, expression or literal, and where. Either the grammar does not admit it,
or a literal in it denotes no value.
-/

namespace TextTemplate

/-- The cause of a parse error. -/
inductive ParseErrorKind where
  /-- The grammar expected one thing and found another. -/
  | unexpectedToken (expected found : String)
  /-- A literal denotes no value. -/
  | invalidLiteral (kind : Grammar.LiteralKind) (text : String)
  | other (message : String)
deriving DecidableEq, Repr

/-- A parse error with the source and the place that it is about. -/
structure ParseError where
  kind : ParseErrorKind
  source : String
  span : Span
deriving DecidableEq, Repr

namespace ParseError

/-- The message of the error. -/
def message (error : ParseError) : String :=
  match error.kind with
  | .unexpectedToken expected found => "Expected " ++ expected ++ ", found " ++ found
  | .invalidLiteral kind text => "Invalid " ++ kind.name ++ " literal '" ++ text ++ "'"
  | .other message => message

/-- The code of the error. -/
def code (error : ParseError) : String :=
  match error.kind with
  | .unexpectedToken _ _ => "P001"
  | .invalidLiteral _ _ => "P002"
  | .other _ => "P999"

/-- A hint on how to mend the source. -/
def help (error : ParseError) : Option String :=
  match error.kind with
  | .unexpectedToken _ _ => some "Write a literal `@` as `@@` to keep it out of expressions"
  | .invalidLiteral _ _ => some "Check the literal format"
  | .other _ => none

/-- The error as a diagnostic about its source. -/
def toDiagnostic (error : ParseError) : Diagnostic where
  severity := .error
  message := error.message
  span := error.span
  help := error.help
  code := some error.code

/-- The error on one line. -/
def display (error : ParseError) : String :=
  Severity.error.name ++ ": " ++ error.message ++ " [" ++ error.code ++ "]"

end ParseError

end TextTemplate
