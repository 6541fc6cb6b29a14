import TextTemplate.Number.Word

/-!
# Reading doubles

Decimal text, with or without a point and an exponent, denotes the nearest double. The texts of the
doubles that are not finite are read as well.
-/

namespace TextTemplate.Number

/-- The double nearest to `significand * 10 ^ exponent`, which is infinite or zero when the number
lies far outside of what doubles reach. -/
def nearestFloat (significand : Nat) (exponent : Int) : Float :=
  let order := (decimalDigits significand).length + exponent
  if significand = 0 ∨ order < -400 then Float.ofScientific 0 false 0
  else if 400 < order then Float.ofScientific 1 false 400
  else Float.ofScientific significand (decide (exponent < 0)) exponent.natAbs

/-- Reads the exponent behind its mark, up to the end. -/
def readExponent? (digits : List Char) : Option Int :=
  match digits with
  | '-' :: digits => (readNat? digits).map fun n => -(n : Int)
  | '+' :: digits => (readNat? digits).map fun n => n
  | digits => (readNat? digits).map fun n => n

/-- Reads a double without a sign that is written in digits. -/
def readMagnitude? (chars : List Char) : Option Float := do
  let isMark := fun c => c == 'e' || c == 'E'
  let mantissa := chars.takeWhile (!isMark ·)
  let whole := mantissa.takeWhile (· != '.')
  let fraction := (mantissa.dropWhile (· != '.')).drop 1
  let significand ← readNat? (whole ++ fraction)
  let exponent ← match chars.dropWhile (!isMark ·) with
    | [] => some 0
    | _ :: digits => readExponent? digits
  pure (nearestFloat significand (exponent - fraction.length))

/-- Reads a double without a sign. -/
def readUnsignedFloat? (chars : List Char) : Option Float :=
  let word := String.ofList (chars.map Char.toLower)
  if word = "inf" ∨ word = "infinity" then some (Float.ofScientific 1 false 400)
  else if word = "nan" then some (Float.ofScientific 0 false 0 / Float.ofScientific 0 false 0)
  else readMagnitude? chars

/-- Reads a double with an optional sign in front of it. -/
def readFloat? (chars : List Char) : Option Float :=
  match chars with
  | '-' :: chars => (readUnsignedFloat? chars).map (-·)
  | '+' :: chars => readUnsignedFloat? chars
  | chars => readUnsignedFloat? chars

end TextTemplate.Number
