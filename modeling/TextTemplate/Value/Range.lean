import TextTemplate.Number.Digits
import TextTemplate.Number.Word

/-!
# Integer ranges

A range begins at `start` and moves towards `stop`, up or down, by its step; a step below one counts
as one. `IntRange.members` walks it, `IntRange.count` and `IntRange.get?` find the number of members
and a single one without walking.
-/

namespace TextTemplate

/-- The integers from `start` towards `stop`, both included when the step reaches `stop`. -/
structure IntRange where
  start : Int64
  stop : Int64
  step : Int64
deriving DecidableEq, Repr

namespace IntRange

/-- The distance between neighbours. -/
def stride (range : IntRange) : Int :=
  max range.step.toInt 1

/-- Whether the range runs downwards. -/
def isDescending (range : IntRange) : Bool :=
  decide (range.stop.toInt < range.start.toInt)

/-- The integer that is `index` steps behind the start, in the range or not. -/
def memberAt (range : IntRange) (index : Nat) : Int :=
  if range.isDescending then range.start.toInt - index * range.stride
  else range.start.toInt + index * range.stride

/-- The member behind a member. -/
def next? (range : IntRange) (current : Int64) : Option Int64 :=
  if range.isDescending then
    let next := current.toInt - range.stride
    if range.stop.toInt ≤ next then Number.int64? next else none
  else
    let next := current.toInt + range.stride
    if next ≤ range.stop.toInt then Number.int64? next else none

/-- The first `limit` members from `current` on. -/
def walk (range : IntRange) : Nat → Option Int64 → List Int64
  | 0, _ => []
  | _ + 1, none => []
  | limit + 1, some current => current :: walk range limit (range.next? current)

/-- The number of members. -/
def count (range : IntRange) : Nat :=
  (range.start.toInt - range.stop.toInt).natAbs / range.stride.toNat + 1

/-- The first `limit` members. -/
def take (range : IntRange) (limit : Nat) : List Int64 :=
  range.walk limit (some range.start)

/-- All members, from the start on. -/
def members (range : IntRange) : List Int64 :=
  range.take range.count

/-- The number of members as a 64-bit word, or the greatest word if it holds no more. -/
def length (range : IntRange) : UInt64 :=
  UInt64.ofNat (min range.count 18446744073709551615)

/-- The member at an index; a negative index counts back from the end. -/
def get? (range : IntRange) (index : Int64) : Option Int64 :=
  let index := if index.toInt < 0 then range.count + index.toInt else index.toInt
  if 0 ≤ index ∧ index < range.count then Number.int64? (range.memberAt index.toNat) else none

/-- The text of a range; a step of one is left out. -/
def text (range : IntRange) : String :=
  let bounds :=
    Number.integerText range.start.toInt ++ ".." ++ Number.integerText range.stop.toInt
  if range.step = 1 then bounds else bounds ++ "//" ++ Number.integerText range.step.toInt

end IntRange

end TextTemplate
