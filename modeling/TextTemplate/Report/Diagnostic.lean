import TextTemplate.Grammar.Cursor

/-!
# Diagnostics

Messages about a source, each with the stretch of bytes that it is about.
-/

namespace TextTemplate

/-- A stretch of a source in bytes, from `start` up to but not including `stop`. -/
structure Span where
  start : Nat
  stop : Nat
deriving DecidableEq, Repr

namespace Span

/-- The stretch from the start of one to the end of another. -/
def combine (first last : Span) : Span :=
  ⟨first.start, last.stop⟩

/-- The characters of a source within the stretch. -/
def slice (span : Span) (source : List Char) : List Char :=
  Grammar.takeBytes (span.stop - span.start) (Grammar.dropBytes span.start source)

end Span

/-- How serious a diagnostic is. -/
inductive Severity where
  | error
  | warning
  | info
deriving DecidableEq, Repr

/-- The word for a severity. -/
def Severity.name : Severity → String
  | error => "error"
  | warning => "warning"
  | info => "info"

/-- A message about a stretch of a source. -/
structure Diagnostic where
  severity : Severity
  message : String
  span : Span
  help : Option String
  code : Option String
deriving DecidableEq, Repr

end TextTemplate
