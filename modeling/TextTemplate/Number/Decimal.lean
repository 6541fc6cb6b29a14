import TextTemplate.Number.Digits

/-!
# Decimals

Decimal numbers of up to 96 bits with at most 28 places. Sums and products are exact where the
result fits; otherwise places are given up, with a half rounded to the even neighbour, until the
digits fit, and a result that does not fit at all is an overflow.
-/

namespace TextTemplate.Number

/-- The number `coefficient / 10 ^ scale`, negated when `negative`. Zero is never negative. -/
structure Decimal where
  negative : Bool
  coefficient : Nat
  scale : Nat
deriving DecidableEq, Repr

namespace Decimal

/-- Coefficients lie below this bound, which is what 96 bits hold. -/
def bound : Nat := 79228162514264337593543950336

/-- A decimal has at most this many places. -/
def maxScale : Nat := 28

/-- The decimal with the given sign, where zero has none. -/
def signed (negative : Bool) (coefficient scale : Nat) : Decimal :=
  ⟨negative && coefficient != 0, coefficient, scale⟩

/-- The integer as a decimal without places. -/
def ofInt (n : Int) : Decimal :=
  signed (decide (n < 0)) n.natAbs 0

/-- Whether the decimal is zero. -/
def isZero (x : Decimal) : Bool :=
  x.coefficient == 0

/-- The decimal with the opposite sign. -/
def neg (x : Decimal) : Decimal :=
  signed (!x.negative) x.coefficient x.scale

/-- The coefficient with its sign. -/
def signedCoefficient (x : Decimal) : Int :=
  if x.negative then -(x.coefficient : Int) else x.coefficient

/-- The signed coefficient at a scale that is not smaller than the decimal's own. -/
def coefficientAt (x : Decimal) (scale : Nat) : Int :=
  x.signedCoefficient * tenPow (scale - x.scale)

/-- Divides by a power of ten and rounds a half to the even neighbour. -/
def roundedQuotient (coefficient places : Nat) : Nat :=
  let divisor := tenPow places
  let quotient := coefficient / divisor
  let remainder := coefficient % divisor
  if divisor < 2 * remainder ∨ (2 * remainder = divisor ∧ quotient % 2 = 1) then quotient + 1
  else quotient

/-- Gives up places, beginning with `dropped` of them, until the coefficient fits. `steps` is how
many further places may be given up. -/
def fitDropping (coefficient : Nat) : Nat → Nat → Option (Nat × Nat)
  | dropped, 0 =>
    let rounded := roundedQuotient coefficient dropped
    if rounded < bound then some (rounded, dropped) else none
  | dropped, steps + 1 =>
    let rounded := roundedQuotient coefficient dropped
    if rounded < bound then some (rounded, dropped)
    else fitDropping coefficient (dropped + 1) steps

/-- The decimal nearest to `value / 10 ^ scale` that has as many of the places as fit. -/
def fit (value : Int) (scale : Nat) : Option Decimal :=
  let least := scale - maxScale
  match fitDropping value.natAbs least (scale - least) with
  | some (coefficient, dropped) =>
    some (signed (decide (value < 0)) coefficient (scale - dropped))
  | none => none

/-- The sum, unless it overflows. A zero operand leaves the other one as it is. -/
def add (x y : Decimal) : Option Decimal :=
  if x.isZero then some y
  else if y.isZero then some x
  else
    let scale := max x.scale y.scale
    fit (x.coefficientAt scale + y.coefficientAt scale) scale

/-- The difference, unless it overflows. -/
def sub (x y : Decimal) : Option Decimal :=
  x.add y.neg

/-- Whether the coefficient has at most 32 bits. -/
def isShort (x : Decimal) : Bool :=
  decide (x.coefficient < 4294967296)

/-- Whether the product of two short coefficients has so many places that none of its digits is
left. -/
def underflows (x y : Decimal) : Bool :=
  x.isShort && y.isShort && decide (maxScale + 19 < x.scale + y.scale)

/-- The product, unless it overflows. The product of short coefficients is zero without places when
it underflows; that of others keeps its places. -/
def mul (x y : Decimal) : Option Decimal :=
  if x.isZero || y.isZero || x.underflows y then some ⟨false, 0, 0⟩
  else fit (x.signedCoefficient * y.signedCoefficient) (x.scale + y.scale)

/-- How two decimals compare by value. -/
def compare (x y : Decimal) : Ordering :=
  let scale := max x.scale y.scale
  Ord.compare (x.coefficientAt scale) (y.coefficientAt scale)

/-- Whether two decimals have the same value. -/
def sameValue (x y : Decimal) : Bool :=
  x.compare y == .eq

/-- The decimal text, with all places. -/
def digits (x : Decimal) : List Char :=
  let padded := paddedDigits (x.scale + 1) x.coefficient
  let whole := padded.length - x.scale
  (if x.negative then ['-'] else []) ++ padded.take whole ++
    (if x.scale = 0 then [] else '.' :: padded.drop whole)

/-- The decimal text, with all places. -/
def text (x : Decimal) : String :=
  String.ofList x.digits

/-- The nearest double, computed from the whole part and the fraction apart and rounded to the
decimal's own places. -/
def toFloat (x : Decimal) : Float :=
  let power := tenPow x.scale
  let magnitude :=
    if x.scale = 0 then Float.ofNat x.coefficient
    else
      let whole := Float.ofNat (x.coefficient / power)
      let fraction := Float.ofNat (x.coefficient % power) / Float.ofNat power
      if fraction == 0 then whole
      else ((whole + fraction) * Float.ofNat power).round / Float.ofNat power
  if x.negative then -magnitude else magnitude

/-- Reads what follows the sign. `point` tells that the decimal point has been read, `started` that
a digit has; digits may be set apart by underscores. -/
def readDigits (negative point started : Bool) (coefficient scale : Nat) :
    List Char → Option Decimal
  | [] => if started then some (signed negative coefficient scale) else none
  | c :: rest =>
    if point && scale == maxScale then none
    else if c.isDigit then
      let next := 10 * coefficient + digitValue c
      if next < bound then
        readDigits negative point true next (if point then scale + 1 else scale) rest
      else none
    else if c == '.' && !point then readDigits negative true started coefficient scale rest
    else if c == '_' && started then readDigits negative point started coefficient scale rest
    else none

/-- Reads a decimal, provided that all its digits fit. -/
def ofDigits? (digits : List Char) : Option Decimal :=
  match digits with
  | '-' :: rest => readDigits true false false 0 0 rest
  | '+' :: rest => readDigits false false false 0 0 rest
  | rest => readDigits false false false 0 0 rest

/-- Reads a decimal, provided that all its digits fit. -/
def ofText? (text : String) : Option Decimal :=
  ofDigits? text.toList

end Decimal

end TextTemplate.Number
