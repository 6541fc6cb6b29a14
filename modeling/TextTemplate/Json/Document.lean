import TextTemplate.Number.Digits
import TextTemplate.Number.Word

/-!
# JSON documents

A JSON text taken apart without loss of anything a reader may want to check: numbers keep their
digits, objects keep repeated keys, and a string whose escapes leave half of a surrogate pair is
kept as such. What a number denotes is `Numeral.int?` and `Numeral.float?`.
-/

namespace TextTemplate.Json

/-- A number as it is written. -/
structure Numeral where
  negative : Bool
  whole : List Char
  /-- The digits after the point; there is no point when there are none. -/
  fraction : List Char
  /-- Whether the exponent is negative, and its digits. -/
  exponent : Option (Bool × List Char)
deriving DecidableEq, Repr

/-- A JSON value as it is written. Strings and keys are `none` where an escape for half of a
surrogate pair stands alone, since no text has such a character. -/
inductive Document where
  | null
  | boolean (value : Bool)
  | number (numeral : Numeral)
  | string (text : Option String)
  | array (items : List Document)
  | object (members : List (Option String × Document))

namespace Document

/-- The document of a text. -/
def ofText (text : String) : Document :=
  .string (some text)

/-- The object with the given members. -/
def ofMembers (members : List (String × Document)) : Document :=
  .object (members.map fun (key, value) => (some key, value))

/-- The document of a natural number. -/
def ofNat (n : Nat) : Document :=
  .number ⟨false, Number.decimalDigits n, [], none⟩

/-- The document of an integer. -/
def ofInt (n : Int) : Document :=
  .number ⟨decide (n < 0), Number.decimalDigits n.natAbs, [], none⟩

end Document

namespace Numeral

/-- The integer that the number denotes, unless it has a fraction, an exponent, or a sign before
zero. -/
def int? (n : Numeral) : Option Int :=
  if n.fraction.isEmpty && n.exponent.isNone then
    let magnitude := Number.ofDigits n.whole
    if n.negative then
      if magnitude = 0 then none else some (-(magnitude : Int))
    else some magnitude
  else none

/-- The integer that the number denotes, if 64 bits with a sign hold it. -/
def int64? (n : Numeral) : Option Int64 :=
  n.int?.bind Number.int64?

/-- The integer that the number denotes, if 64 bits without a sign hold it. -/
def uint64? (n : Numeral) : Option UInt64 :=
  match n.int? with
  | some (.ofNat value) => Number.uint64? value
  | _ => none

/-- Significands are collected below this bound. -/
def significandBound : Nat := 18446744073709551616

/-- Collects leading digits into a significand as long as it stays below the bound, and returns
the digits that are left over. -/
def collect (significand : Nat) : List Char → Nat × List Char
  | [] => (significand, [])
  | c :: rest =>
    let next := 10 * significand + Number.digitValue c
    if next < significandBound then collect next rest else (significand, c :: rest)

/-- The double nearest to a power of ten. -/
def powerOfTen (exponent : Nat) : Float :=
  Float.ofScientific 1 false exponent

/-- Scales a significand by a power of ten in one rounded step, or in several where the exponent is
far below zero; `none` when the result is infinite. -/
def scale (significand : Float) (exponent : Int) : Nat → Option Float
  | 0 => some 0
  | steps + 1 =>
    if 0 ≤ exponent then
      if exponent ≤ 308 then
        let scaled := significand * powerOfTen exponent.toNat
        if scaled.isInf then none else some scaled
      else if significand == 0 then some significand
      else none
    else if -308 ≤ exponent then some (significand / powerOfTen (-exponent).toNat)
    else scale (significand / powerOfTen 308) (exponent + 308) steps

/-- The double that the number denotes, unless it is infinite. Up to twenty digits count, and
scaling them by the exponent rounds a second time, so that long fractions may miss the nearest
double by a little. -/
def float? (n : Numeral) : Option Float :=
  let (wholeSignificand, wholeLeft) := collect 0 n.whole
  let (significand, fractionLeft) := collect wholeSignificand n.fraction
  let written : Int := match n.exponent with
    | some (true, digits) => -(Number.ofDigits digits : Int)
    | some (false, digits) => Number.ofDigits digits
    | none => 0
  let collected : Int := (n.fraction.length - fractionLeft.length : Nat)
  match scale (Float.ofNat significand) (wholeLeft.length - collected + written) 4 with
  | some magnitude => some (if n.negative then -magnitude else magnitude)
  | none => none

end Numeral

end TextTemplate.Json
