import TextTemplate.Number.Digits
import TextTemplate.Number.Shortest

/-!
# The text of a double

The shortest digits that read back, laid out with a point where the magnitude is moderate and with
an exponent elsewhere. A whole number keeps one zero after the point.
-/

namespace TextTemplate.Number

/-- The powers of ten whose digits are laid out with a point: a magnitude from `10 ^ lowest` up to
but not including `10 ^ highest`. -/
structure PointRange where
  lowest : Int
  highest : Int

/-- Rendered values use a point from one ten-thousandth up to ten quadrillion. -/
def PointRange.display : PointRange := ⟨-4, 16⟩

/-- Interchange text uses a point from one hundred-thousandth up to ten quadrillion. -/
def PointRange.interchange : PointRange := ⟨-5, 16⟩

/-- The parts of a decimal text: digits before and behind the point, and an exponent. -/
structure DecimalLayout where
  whole : List Char
  fraction : List Char
  exponent : Option Int

/-- Lays out digits whose first one stands for a multiple of `10 ^ order` with a point. -/
def DecimalLayout.withPoint (digits : List Char) (order : Int) : DecimalLayout :=
  if order < 0 then ⟨['0'], List.replicate (-order - 1).toNat '0' ++ digits, none⟩
  else
    let whole := order.toNat + 1
    let padded := digits ++ List.replicate (whole + 1 - digits.length) '0'
    ⟨padded.take whole, padded.drop whole, none⟩

/-- Lays out digits whose first one stands for a multiple of `10 ^ order` with an exponent. -/
def DecimalLayout.withExponent (digits : List Char) (order : Int) : DecimalLayout :=
  ⟨digits.take 1, digits.drop 1, some order⟩

/-- The layout of a positive magnitude. -/
def Scientific.layout (range : PointRange) (x : Scientific) : DecimalLayout :=
  let digits := decimalDigits x.digits
  let order := x.exponent + digits.length - 1
  if range.lowest ≤ order ∧ order < range.highest then .withPoint digits order
  else .withExponent digits order

/-- The layout of a finite magnitude. -/
def Binary.layout (range : PointRange) (x : Binary) : DecimalLayout :=
  if x.significand = 0 then ⟨['0'], ['0'], none⟩ else x.shortest.layout range

/-- The characters of a layout. -/
def DecimalLayout.chars (layout : DecimalLayout) : List Char :=
  layout.whole ++ (if layout.fraction.isEmpty then [] else '.' :: layout.fraction) ++
    match layout.exponent with
    | some exponent => 'e' :: integerDigits exponent
    | none => []

/-- The characters of the text of a double. -/
def floatDigits (range : PointRange) (x : Float) : List Char :=
  match FloatShape.of x with
  | .nan => ['N', 'a', 'N']
  | .infinite negative => (if negative then ['-'] else []) ++ ['i', 'n', 'f']
  | .finite negative magnitude =>
    (if negative then ['-'] else []) ++ (magnitude.layout range).chars

/-- The text of a double in rendered values. -/
def floatText (x : Float) : String :=
  String.ofList (floatDigits .display x)

end TextTemplate.Number
