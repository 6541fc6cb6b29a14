import TextTemplate.Number.Digits

/-!
# Words

Integers that 64 bits hold, with or without a sign.
-/

namespace TextTemplate.Number

/-- The integer as a 64-bit word with a sign, if one holds it. -/
def int64? (n : Int) : Option Int64 :=
  if -9223372036854775808 ≤ n ∧ n < 9223372036854775808 then some (Int64.ofInt n) else none

/-- The number as a 64-bit word without a sign, if one holds it. -/
def uint64? (n : Nat) : Option UInt64 :=
  if n < 18446744073709551616 then some (UInt64.ofNat n) else none

/-- Reads decimal digits, of which there must be one. -/
def readNat? (digits : List Char) : Option Nat :=
  if digits.isEmpty || !digits.all Char.isDigit then none else some (ofDigits digits)

/-- Reads a 64-bit word with an optional sign in front of its digits. -/
def readInt64? (digits : List Char) : Option Int64 :=
  match digits with
  | '-' :: digits => (readNat? digits).bind fun n => int64? (-(n : Int))
  | '+' :: digits => (readNat? digits).bind fun n => int64? n
  | digits => (readNat? digits).bind fun n => int64? n

end TextTemplate.Number
