import TextTemplate.Expr.Parser
import TextTemplate.Value.Json

/-!
# Normalization

How host data becomes a context. Keys are brought to lower case at every depth. A string is read as
a literal if it is one in full, unless that is switched off; a string of digits that begins with a
zero is data such as a postal code and stays a string. Normalization never fails.
-/

namespace TextTemplate

/-- How host data is turned into a context. -/
structure ContextOptions where
  /-- Whether strings stay strings. -/
  skipEvaluation : Bool := false
deriving DecidableEq, Repr

/-- Whether the text has several digits and begins with a zero. -/
def hasLeadingZero (text : String) : Bool :=
  match text.toList with
  | '0' :: next :: rest => (next :: rest).all Char.isDigit
  | _ => false

namespace Value

/-- The value of a host string. -/
def ofHostText (options : ContextOptions) (text : String) : Value :=
  if options.skipEvaluation || hasLeadingZero text then str text
  else match Literal.parse text with
    | .ok literal => literal.value
    | .error _ => str text

mutual
/-- The value of host data in JSON form. -/
def ofHostJson (options : ContextOptions) : Json → Value
  | .null => null
  | .boolean value => bool value
  | .integer value => ofJsonInteger value
  | .float value => float value
  | .string text => ofHostText options text
  | .array items => list (ofHostItems options items)
  | .object members => map (.ofPairs (ofHostMembers options members))

/-- The values of the items of an array. -/
def ofHostItems (options : ContextOptions) : List Json → List Value
  | [] => []
  | item :: items => ofHostJson options item :: ofHostItems options items

/-- The pairs of the members of an object. -/
def ofHostMembers (options : ContextOptions) : List (String × Json) → List (String × Value)
  | [] => []
  | (key, value) :: rest => (key, ofHostJson options value) :: ofHostMembers options rest
end

mutual
/-- The value of host data that has the form of a value already: its strings are read as literals,
lists and maps are searched for them, and everything else stays. -/
def normalize (options : ContextOptions) : Value → Value
  | str text => ofHostText options text
  | list items => list (normalizeAll options items)
  | map context => map (normalizeContext options context)
  | value => value

/-- Normalizes the values of a context. -/
def normalizeContext (options : ContextOptions) : Context → Context
  | ⟨entries⟩ => .ofPairs (normalizeEntries options entries)

/-- Normalizes the items of a list. -/
def normalizeAll (options : ContextOptions) : List Value → List Value
  | [] => []
  | item :: items => normalize options item :: normalizeAll options items

/-- Normalizes the values of entries. -/
def normalizeEntries (options : ContextOptions) : List (String × Value) → List (String × Value)
  | [] => []
  | (key, value) :: rest => (key, normalize options value) :: normalizeEntries options rest
end

end Value

namespace Context

/-- The context of pairs of host data in JSON form. -/
def ofHostPairs (options : ContextOptions) (pairs : List (String × Json)) : Context :=
  .ofPairs (Value.ofHostMembers options pairs)

/-- The context of host data in JSON form; data that is no object gives an empty context. -/
def ofHostJson (options : ContextOptions) : Json → Context
  | .object members => ofHostPairs options members
  | _ => empty

/-- The context of pairs of host values. -/
def ofHostValues (options : ContextOptions) (pairs : List (String × Value)) : Context :=
  .ofPairs (Value.normalizeEntries options pairs)

end Context

end TextTemplate
