import TextTemplate.Number.Digits

/-!
# Shortest decimals

A finite double is `significand * 2 ^ exponent`. The reals that round to it form an interval around
it. `Binary.shortest` finds the coarsest decimal grid with a point in that interval, and on it the
point nearest to the double: the decimal with the fewest digits that reads back.
-/

namespace TextTemplate.Number

/-- The magnitude `significand * 2 ^ exponent` of a finite double. -/
structure Binary where
  significand : Nat
  exponent : Int

/-- The magnitude `digits * 10 ^ exponent`. -/
structure Scientific where
  digits : Nat
  exponent : Int

/-- What the bits of a double say. -/
inductive FloatShape where
  | nan
  | infinite (negative : Bool)
  | finite (negative : Bool) (magnitude : Binary)

/-- Takes a double apart. -/
def FloatShape.of (x : Float) : FloatShape :=
  let bits := x.toBits.toNat
  let negative := decide (twoPow 63 ≤ bits)
  let biased : Nat := bits / twoPow 52 % twoPow 11
  let fraction : Nat := bits % twoPow 52
  if biased = 2047 then
    if fraction = 0 then .infinite negative else .nan
  else if biased = 0 then .finite negative ⟨fraction, -1074⟩
  else .finite negative ⟨fraction + twoPow 52, (biased : Int) - 1075⟩

/-- Whether the double is neither infinite nor undefined. -/
def FloatShape.isFinite : FloatShape → Bool
  | .finite _ _ => true
  | _ => false

/-- The interval of reals that round to a magnitude, as multiples of one quarter unit in the last
place. Below a power of two the neighbour is only half as far away. -/
structure Rounding where
  low : Nat
  middle : Nat
  high : Nat
  closed : Bool

/-- The rounding interval, in units of `2 ^ (exponent - 2)`. -/
def Binary.rounding (x : Binary) : Rounding where
  low := if x.significand = twoPow 52 ∧ -1074 < x.exponent then 4 * x.significand - 1
    else 4 * x.significand - 2
  middle := 4 * x.significand
  high := 4 * x.significand + 2
  closed := x.significand % 2 = 0

/-- Whether the point `point` lies in the interval `scale` times as large. -/
def Rounding.contains (interval : Rounding) (scale point : Nat) : Bool :=
  if interval.closed then
    decide (interval.low * scale ≤ point) && decide (point ≤ interval.high * scale)
  else decide (interval.low * scale < point) && decide (point < interval.high * scale)

/-- The multiple of `10 ^ exponent` that rounds to `x` and is nearest to it, if there is one. -/
def Binary.onGrid? (x : Binary) (exponent : Int) : Option Nat :=
  let binary := x.exponent - 2
  let scale := twoPow binary.toNat * tenPow (-exponent).toNat
  let step := twoPow (-binary).toNat * tenPow exponent.toNat
  let interval := x.rounding
  let below := interval.middle * scale / step
  let hitsBelow := interval.contains scale (below * step)
  let hitsAbove := interval.contains scale ((below + 1) * step)
  if hitsBelow && hitsAbove then
    let middle := 2 * (interval.middle * scale)
    let halfway := (2 * below + 1) * step
    if middle < halfway ∨ (middle = halfway ∧ below % 2 = 0) then some below else some (below + 1)
  else if hitsBelow then some below
  else if hitsAbove then some (below + 1)
  else none

/-- Tries ever finer grids from `10 ^ exponent` on. -/
def Binary.searchGrids (x : Binary) : Nat → Int → Scientific
  | 0, exponent => ⟨0, exponent⟩
  | steps + 1, exponent =>
    match x.onGrid? exponent with
    | some digits => ⟨digits, exponent⟩
    | none => x.searchGrids steps (exponent - 1)

/-- The decimal with the fewest digits that rounds to `x`, and of those the nearest. -/
def Binary.shortest (x : Binary) : Scientific :=
  if x.significand = 0 then ⟨0, 0⟩
  else x.searchGrids 40 ((x.exponent + Nat.log2 x.significand + 1) * 30103 / 100000 + 1)

end TextTemplate.Number
