import TextTemplate.Library.Standard

/-!
# Sample libraries

Libraries that a host application may offer: one that always answers the same integer, one that
greets, and one to try out calls, failures and faults with.
-/

namespace TextTemplate.Library

/-- Answers every call with the same integer. -/
def constant (answer : Int64) : Library := fun _ _ =>
  .ok (.int answer)

/-- The greeting in the language that the context asks for. -/
def greeting (context : Context) : String :=
  match context.get? "lang" with
  | some (.str "fr") => "Bonjour "
  | _ => "Hello "

/-- Greets its only argument. -/
def greeter : Library := fun _ call =>
  match call.args with
  | [name] =>
    if call.name = "greet" then .ok (.str (greeting call.context ++ name.text))
    else .error (.unknownFunction call.name)
  | _ => call.arityError "1"

/-- The sum of the integers among the values. -/
def sumOfInts (values : List Value) : Int64 :=
  (values.filterMap Value.int?).foldl (· + ·) 0

/-- Offers functions that add, apply closures, wrap values, show the context, fail, and read
decimals from strings; all other calls go to the standard library. -/
def trial : Library := fun invoke call =>
  match call.name with
  | "add" => .ok (.int (sumOfInts call.args))
  | "apply" =>
    match call.args with
    | .closure closure :: args => call.invoke invoke 0 closure args
    | _ => call.argumentError "expected a function"
  | "wrap" =>
    .ok (.map (.ofPairs
      [(Context.defaultKey, call.args.headD .null), ("extra", .int 1)]))
  | "ctx" => .ok (.map call.context)
  | "fail" => .error (.failed (Value.joinedText call.args))
  | "explode" => .error (.halted (.fault (.arithmetic "boom")))
  | "decimal" =>
    match call.args with
    | [.str text] =>
      match Number.Decimal.ofText? text with
      | some value => .ok (.decimal value)
      | none => call.argumentError "not a decimal"
    | _ => Library.standard invoke call
  | _ => Library.standard invoke call

end TextTemplate.Library
