import TextTemplate.Library.Basic

/-!
# The standard library

The functions that every template may call: conditions, texts and lists. Their names are matched
without regard to case.
-/

namespace TextTemplate

/-- The functions of the standard library. -/
inductive StandardFunction where
  | all
  | concatenate
  | choose
  | len
  | lower
  | map
  | negate
  | any
  | upper
deriving DecidableEq, Repr

namespace StandardFunction

/-- All functions, in the order of their names. -/
def functions : List StandardFunction :=
  [all, concatenate, choose, len, lower, map, negate, any, upper]

/-- The name of a function in templates. -/
def name : StandardFunction → String
  | all => "and"
  | concatenate => "concatenate"
  | choose => "if"
  | len => "len"
  | lower => "lower"
  | map => "map"
  | negate => "not"
  | any => "or"
  | upper => "upper"

/-- The names of all functions, in order. -/
def names : List String :=
  functions.map name

/-- The function of a name in any case. -/
def ofName? (written : String) : Option StandardFunction :=
  functions.find? (·.name == Text.lower written)

/-- The number of elements of a value that has elements, as a 64-bit word. -/
def lengthOf? : Value → Option Int64
  | .str text => some (Int64.ofNat text.toList.length)
  | .list items => some (Int64.ofNat items.length)
  | .range range => some range.length.toInt64
  | .map context => some (Int64.ofNat context.size)
  | _ => none

/-- The elements of a value that can be walked through. -/
def elementsOf? : Value → Option (List Value)
  | .list items => some items
  | .range range => some (range.members.map .int)
  | _ => none

/-- Calls the closure on each item, as the steps of the call from `step` on. -/
def mapItems (invoke : Invoke) (call : Call) (closure : Closure) :
    Nat → List Value → Except CallError (List Value)
  | _, [] => .ok []
  | step, item :: items => do
    let value ← call.invoke invoke step closure [item]
    let values ← mapItems invoke call closure (step + 1) items
    pure (value :: values)

/-- The text of a string argument. -/
def textArg (call : Call) (value : Value) : Except CallError String :=
  match value with
  | .str text => .ok text
  | other => call.argumentError ("expected a string, got " ++ other.typeName)

/-- The value of a call of a function. -/
def answer (invoke : Invoke) (call : Call) : StandardFunction → Except CallError Value
  | choose =>
    match call.args with
    | [condition, yes, no] => .ok (if condition.isTruthy then yes else no)
    | _ => call.arityError "3"
  | all =>
    if call.args.isEmpty then call.arityError "at least 1"
    else .ok (.bool (call.args.all Value.isTruthy))
  | any =>
    if call.args.isEmpty then call.arityError "at least 1"
    else .ok (.bool (call.args.any Value.isTruthy))
  | negate =>
    match call.args with
    | [value] => .ok (.bool (!value.isTruthy))
    | _ => call.arityError "1"
  | upper =>
    match call.args with
    | [value] => do
      let text ← textArg call value
      pure (.str (Text.upper text))
    | _ => call.arityError "1"
  | lower =>
    match call.args with
    | [value] => do
      let text ← textArg call value
      pure (.str (Text.lower text))
    | _ => call.arityError "1"
  | len =>
    match call.args with
    | [value] =>
      match lengthOf? value with
      | some length => .ok (.int length)
      | none => call.argumentError ("cannot measure " ++ value.typeName)
    | _ => call.arityError "1"
  | concatenate => .ok (.str (Value.joinedText call.args))
  | map =>
    match call.args with
    | [collection, .closure closure] =>
      match elementsOf? collection with
      | some items => do
        let values ← mapItems invoke call closure 0 items
        pure (.list values)
      | none => call.argumentError ("cannot iterate over " ++ collection.typeName)
    | [_, other] => call.argumentError ("expected a function, got " ++ other.typeName)
    | _ => call.arityError "2"

end StandardFunction

/-- The standard library. -/
def Library.standard : Library := fun invoke call =>
  match StandardFunction.ofName? call.name with
  | some function => function.answer invoke call
  | none => .error (.unknownFunction call.name)

/-- The library that a resolver stands for. -/
def Resolver.library (host : Host) : Resolver → Library
  | .standard => .standard
  | .hosted name => host name

end TextTemplate
