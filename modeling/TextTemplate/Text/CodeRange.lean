/-!
# Ranges of code points

A `CodeRange` is a closed interval of code points. Properties of characters are kept as ascending
lists of ranges, and `CodeRange.covers` asks whether one of them holds a character.
-/

namespace TextTemplate.Text

/-- The code points from `first` to `last`, both included. -/
structure CodeRange where
  first : Nat
  last : Nat

/-- Whether the character lies in the range. -/
def CodeRange.holds (range : CodeRange) (c : Char) : Bool :=
  range.first ≤ c.toNat && c.toNat ≤ range.last

/-- Whether one of the ranges holds the character. -/
def CodeRange.covers (ranges : List CodeRange) (c : Char) : Bool :=
  ranges.any (·.holds c)

end TextTemplate.Text
