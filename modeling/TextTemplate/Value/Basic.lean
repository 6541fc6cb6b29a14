import TextTemplate.Expr.Basic
import TextTemplate.Keyed
import TextTemplate.Number.Decimal
import TextTemplate.Text.Case
import TextTemplate.Value.Range

/-!
# Values and contexts

What expressions evaluate to, the contexts they are evaluated in, and the closures that lambdas
become. A context is a keyed list whose keys are in lower case; looking a key up ignores its case. A
closure keeps the context it was made in, and two closures are the same only if they were made by
the same evaluation of a lambda, which is its origin.
-/

namespace TextTemplate

/-- Where a call of a function is answered: in the standard library or by a library of the host
application. -/
inductive Resolver where
  | standard
  | hosted (library : String)
deriving DecidableEq, Repr

/-- A step of an evaluation, as the path to it from the outermost evaluation; the last turn comes
first. -/
abbrev Origin := List Nat

mutual
/-- The values of expressions. -/
inductive Value where
  /-- The absence of a value. -/
  | null
  | bool (value : Bool)
  | int (value : Int64)
  | float (value : Float)
  | decimal (value : Number.Decimal)
  | str (text : String)
  | dateTime (value : Time.Timestamp)
  | range (value : IntRange)
  | list (items : List Value)
  | map (context : Context)
  | closure (closure : Closure)

/-- Values by their keys. -/
structure Context where
  /-- The keys with their values, ascending by key. -/
  entries : List (String × Value)

/-- A lambda together with what it needs to be called. -/
structure Closure where
  context : Context
  body : List Expr
  resolver : Resolver
  /-- The nesting that a call may reach. -/
  maxDepth : Nat
  /-- The evaluation that made the closure. -/
  origin : Origin
end

/-- The value of a literal. -/
def Literal.value : Literal → Value
  | .int value => .int value
  | .float value => .float value
  | .bool value => .bool value
  | .str text => .str text
  | .dateTime value => .dateTime value

namespace Context

/-- The key of the arguments of the lambda that is being called. -/
def capturesKey : String := "__captures"

/-- The key that names a resolver to use in place of the default one. -/
def resolverKey : String := "__resolver__"

/-- The key of the value that a map stands for. -/
def defaultKey : String := "__value__"

/-- The context without entries. -/
def empty : Context := ⟨[]⟩

/-- The value under a key as it is written or, failing that, in lower case. -/
def get? (context : Context) (key : String) : Option Value :=
  match Keyed.get? key context.entries with
  | some value => some value
  | none => Keyed.get? (Text.lower key) context.entries

/-- Puts a value under the lower-case form of the key. -/
def insert (context : Context) (key : String) (value : Value) : Context :=
  ⟨Keyed.insert (Text.lower key) value context.entries⟩

/-- The context of pairs, of which later ones replace earlier ones. -/
def ofPairs (pairs : List (String × Value)) : Context :=
  pairs.foldl (fun context (key, value) => context.insert key value) empty

/-- Whether a key has a value, be it null. -/
def contains (context : Context) (key : String) : Bool :=
  (context.get? key).isSome

/-- The context with the arguments of a lambda. -/
def withCaptures (context : Context) (args : List Value) : Context :=
  context.insert capturesKey (.list args)

/-- An argument of the lambda that is being called, counted from one; null if there is none. -/
def capture (context : Context) (index : UInt64) : Value :=
  match context.get? capturesKey, index.toNat with
  | some (.list args), position + 1 => args.getD position .null
  | _, _ => .null

/-- The name of the resolver that the context asks for. -/
def resolverName (context : Context) : Option String :=
  match context.get? resolverKey with
  | some (.str name) => some name
  | _ => none

/-- The number of entries. -/
def size (context : Context) : Nat :=
  context.entries.length

/-- The keys, in ascending order. -/
def keys (context : Context) : List String :=
  context.entries.map (·.1)

end Context

namespace Value

/-- The word for the type of a value. -/
def typeName : Value → String
  | null => "null"
  | bool _ => "boolean"
  | int _ => "integer"
  | float _ => "float"
  | decimal _ => "decimal"
  | str _ => "string"
  | dateTime _ => "datetime"
  | range _ => "range"
  | list _ => "list"
  | map _ => "map"
  | closure _ => "function"

/-- Whether the value is absent. -/
def isNull : Value → Bool
  | null => true
  | _ => false

/-- Whether a condition holds that has this value: all values do but null and false. -/
def isTruthy : Value → Bool
  | null | bool false => false
  | _ => true

/-- Whether the value is a number. -/
def isNumeric : Value → Bool
  | int _ | float _ | decimal _ => true
  | _ => false

/-- The truth value, if it is one. -/
def bool? : Value → Option Bool
  | bool value => some value
  | _ => none

/-- The integer, if it is one. -/
def int? : Value → Option Int64
  | int value => some value
  | _ => none

/-- The text, if it is one. -/
def str? : Value → Option String
  | str text => some text
  | _ => none

/-- The double nearest to a number. -/
def float? : Value → Option Float
  | int value => some (Float.ofInt value.toInt)
  | float value => some value
  | decimal value => some value.toFloat
  | _ => none

/-- The value that a map stands for, if it stands for one, and the value itself otherwise. -/
def unwrapped : Value → Value
  | map context => (context.get? Context.defaultKey).getD (map context)
  | value => value

mutual
/-- Whether two values are equal: of one type and, for closures, of one origin. Decimals are
compared by value, doubles as numbers and timestamps as instants. -/
def same : Value → Value → Bool
  | null, null => true
  | bool x, bool y => x == y
  | int x, int y => x == y
  | float x, float y => x == y
  | decimal x, decimal y => x.sameValue y
  | str x, str y => x == y
  | dateTime x, dateTime y => x.sameInstant y
  | range x, range y => x == y
  | list xs, list ys => sameAll xs ys
  | map x, map y => sameContext x y
  | closure x, closure y => x.origin == y.origin
  | _, _ => false

/-- Whether two contexts have the same keys with equal values. -/
def sameContext : Context → Context → Bool
  | ⟨xs⟩, ⟨ys⟩ => sameEntries xs ys

/-- Whether two lists are equal, value by value. -/
def sameAll : List Value → List Value → Bool
  | [], [] => true
  | x :: xs, y :: ys => same x y && sameAll xs ys
  | _, _ => false

/-- Whether two keyed lists are equal, entry by entry. -/
def sameEntries : List (String × Value) → List (String × Value) → Bool
  | [], [] => true
  | (k, x) :: xs, (l, y) :: ys => k == l && same x y && sameEntries xs ys
  | _, _ => false
end

end Value

end TextTemplate
