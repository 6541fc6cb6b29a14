import TextTemplate.Json.Document
import TextTemplate.Number.FloatText

/-!
# Doubles in JSON

A finite double is written with the shortest digits that read back; the others have no JSON form and
are written as null.
-/

namespace TextTemplate.Json

/-- The number with the given layout. -/
def Numeral.ofLayout (negative : Bool) (layout : Number.DecimalLayout) : Numeral where
  negative := negative
  whole := layout.whole
  fraction := layout.fraction
  exponent := layout.exponent.map fun exponent =>
    (decide (exponent < 0), Number.decimalDigits exponent.natAbs)

/-- The document of a double. -/
def Document.ofFloat (x : Float) : Document :=
  match Number.FloatShape.of x with
  | .finite negative magnitude => .number (.ofLayout negative (magnitude.layout .interchange))
  | _ => .null

end TextTemplate.Json
