import TextTemplate.Eval.Error

/-!
# Operators

Integers wrap around, decimals are exact or overflow, and a double on either side makes the result a
double. A quotient and a power are always doubles. `Value.looseEq` compares numbers by value,
whatever their types.
-/

namespace TextTemplate

namespace Value

/-- The double nearest to a number, and no number for anything else. -/
def toFloat (value : Value) : Float :=
  value.float?.getD (0 / 0)

/-- An integer or a decimal as a decimal, and zero for anything else. -/
def toDecimal : Value → Number.Decimal
  | int value => .ofInt value.toInt
  | decimal value => value
  | _ => ⟨false, 0, 0⟩

/-- How two doubles compare, unless one of them is no number. -/
def compareFloats (x y : Float) : Option Ordering :=
  if x < y then some .lt
  else if y < x then some .gt
  else if x == y then some .eq
  else none

/-- How two numbers compare, unless one of them is a double that is no number. -/
def compare (left right : Value) : Option Ordering :=
  match left, right with
  | int x, int y => some (Ord.compare x.toInt y.toInt)
  | float x, _ => compareFloats x right.toFloat
  | _, float y => compareFloats left.toFloat y
  | _, _ => some (left.toDecimal.compare right.toDecimal)

mutual
/-- Whether two values are equal, where numbers are compared by value, lists item by item and maps
entry by entry. -/
def looseEq : Value → Value → Bool
  | list xs, list ys => looseEqAll xs ys
  | map x, map y => looseEqContext x y
  | x, y => if x.isNumeric && y.isNumeric then x.compare y == some .eq else x.same y

/-- Whether two contexts have as many entries, and each of the first is in the second. -/
def looseEqContext : Context → Context → Bool
  | ⟨xs⟩, y => xs.length == y.size && looseEqEntries xs y

/-- Whether two lists are equal, item by item. -/
def looseEqAll : List Value → List Value → Bool
  | [], [] => true
  | x :: xs, y :: ys => looseEq x y && looseEqAll xs ys
  | _, _ => false

/-- Whether the context has an equal value for each of the entries. -/
def looseEqEntries : List (String × Value) → Context → Bool
  | [], _ => true
  | (key, x) :: rest, context =>
    (match context.get? key with
      | some y => looseEq x y
      | none => false) && looseEqEntries rest context
end

end Value

namespace BinaryOp

/-- The value of an operator on integers, which wrap around. -/
def onInts : BinaryOp → Int64 → Int64 → Int64
  | add, x, y => x + y
  | sub, x, y => x - y
  | mul, x, y => x * y
  | _, _, _ => 0

/-- The value of an operator on doubles. -/
def onFloats : BinaryOp → Float → Float → Float
  | add, x, y => x + y
  | sub, x, y => x - y
  | mul, x, y => x * y
  | div, x, y => x / y
  | pow, x, y => x.pow y
  | _, _, _ => 0

/-- The value of an operator on decimals, unless it overflows. -/
def onDecimals : BinaryOp → Number.Decimal → Number.Decimal → Option Number.Decimal
  | add, x, y => x.add y
  | sub, x, y => x.sub y
  | mul, x, y => x.mul y
  | _, _, _ => none

/-- Whether an order relation holds between numbers that compare so. -/
def holds (op : BinaryOp) (order : Option Ordering) : Bool :=
  match op, order with
  | gt, some .gt => true
  | ge, some .gt | ge, some .eq => true
  | lt, some .lt => true
  | le, some .lt | le, some .eq => true
  | _, _ => false

/-- The value of a sum, a difference or a product of numbers. -/
def combine (op : BinaryOp) (left right : Value) : Except EvalError Value :=
  match left, right with
  | .int x, .int y => .ok (.int (op.onInts x y))
  | .float x, _ => .ok (.float (op.onFloats x right.toFloat))
  | _, .float y => .ok (.float (op.onFloats left.toFloat y))
  | _, _ =>
    match op.onDecimals left.toDecimal right.toDecimal with
    | some value => .ok (.decimal value)
    | none =>
      .error (.arithmetic ("decimal overflow in " ++ left.toDecimal.text ++ " " ++ op.symbol ++
        " " ++ right.toDecimal.text))

/-- The value of a power. -/
def power (left right : Value) : Except EvalError Value :=
  match left.float?, right.float? with
  | some base, some exponent => .ok (.float (BinaryOp.pow.onFloats base exponent))
  | _, _ =>
    .error (.arithmetic ("cannot raise " ++ left.repr ++ " to the power of " ++ right.repr))

/-- The value of an operator that takes numbers. -/
def numeric (op : BinaryOp) (left right : Value) : Except EvalError Value :=
  if !left.isNumeric then .error (.notANumber op left.repr)
  else if !right.isNumeric then .error (.notANumber op right.repr)
  else match op with
    | gt | ge | lt | le => .ok (.bool (op.holds (left.compare right)))
    | div => .ok (.float (div.onFloats left.toFloat right.toFloat))
    | op => op.combine left right

/-- The value of an operator. -/
def apply (op : BinaryOp) (left right : Value) : Except EvalError Value :=
  match op with
  | eq => .ok (.bool (left.looseEq right))
  | ne => .ok (.bool (!left.looseEq right))
  | pow => power left right
  | concat => .ok (.str (left.text ++ right.text))
  | op => op.numeric left right

end BinaryOp

end TextTemplate
