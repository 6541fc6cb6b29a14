import TextTemplate.Context.Normalize
import TextTemplate.Json.Document

/-!
# Engine options

The options of an engine and how they are read from configuration. Each group of options is an
object, of which missing and unknown members are passed over, or an array of the members in their
order.
-/

namespace TextTemplate

open Json (Document)

/-- The options of an engine. -/
structure EngineOptions where
  context : ContextOptions := {}
  /-- The nesting that an evaluation may reach. -/
  maxDepth : Nat := 1000
deriving DecidableEq, Repr

namespace EngineOptions

/-- The members of a group of options, by their names; `none` if the document is no such group. Of a
repeated member the last one counts. -/
def group? (names : List String) : Document → Option (List (Option Document))
  | .object members =>
    some (names.map fun name =>
      ((members.filter fun (key, _) => key == some name).map (·.2)).getLast?)
  | .array items =>
    if items.length ≤ names.length then
      some (items.map some ++ List.replicate (names.length - items.length) none)
    else none
  | _ => none

/-- Reads the options for contexts. -/
def context? (document : Document) : Option ContextOptions := do
  match ← group? ["skip_context_evaluation"] document with
  | [some (.boolean skip)] => some { skipEvaluation := skip }
  | [none] => some {}
  | _ => none

/-- Reads the greatest depth from the options for evaluations, if they give it. -/
def maxDepth? (document : Document) : Option (Option Nat) := do
  match ← group? ["max_depth"] document with
  | [some (.number numeral)] => numeral.uint64?.map fun depth => some depth.toNat
  | [none] => some none
  | _ => none

/-- Reads the options of an engine. -/
def decode? (document : Document) : Option EngineOptions := do
  match ← group? ["context", "evaluator"] document with
  | [context, evaluator] =>
    let context ← match context with
      | some context => context? context
      | none => some {}
    let maxDepth ← match evaluator with
      | some evaluator => maxDepth? evaluator
      | none => some none
    some { context, maxDepth := maxDepth.getD 1000 }
  | _ => none

end EngineOptions

end TextTemplate
