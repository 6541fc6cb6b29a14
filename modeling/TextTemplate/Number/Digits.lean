/-!
# Digits

Natural numbers as digits in a base up to sixteen, decimal digits read back, and the powers of ten
and two that numbers are scaled by.
-/

namespace TextTemplate.Number

/-- The power of ten with the exponent. -/
def tenPow (exponent : Nat) : Nat :=
  Nat.pow 10 exponent

/-- The power of two with the exponent. -/
def twoPow (exponent : Nat) : Nat :=
  Nat.pow 2 exponent

/-- The digit of a value below sixteen, in lower case. -/
def digitChar (value : Nat) : Char :=
  if value < 10 then Char.ofNat (48 + value) else Char.ofNat (87 + value)

/-- Puts the digits of `n` in front of `later`; `steps` bounds their number. -/
def digitsOnto (base : Nat) : Nat → Nat → List Char → List Char
  | 0, _, later => later
  | steps + 1, n, later =>
    let digits := digitChar (n % base) :: later
    if n < base then digits else digitsOnto base steps (n / base) digits

/-- The digits of `n` in the base, without leading zeros. -/
def digitsIn (base n : Nat) : List Char :=
  digitsOnto base (n + 1) n []

/-- The decimal digits of `n`, without leading zeros. -/
def decimalDigits (n : Nat) : List Char :=
  digitsIn 10 n

/-- The decimal digits of `n`, filled up with zeros to at least `width`. -/
def paddedDigits (width n : Nat) : List Char :=
  let digits := decimalDigits n
  List.replicate (width - digits.length) '0' ++ digits

/-- The decimal text of an integer, with a minus sign when it is negative. -/
def integerDigits (n : Int) : List Char :=
  match n with
  | .ofNat magnitude => decimalDigits magnitude
  | .negSucc magnitude => '-' :: decimalDigits (magnitude + 1)

/-- The value of a decimal digit. -/
def digitValue (c : Char) : Nat :=
  c.toNat - 48

/-- The number that decimal digits denote. -/
def ofDigits (digits : List Char) : Nat :=
  digits.foldl (fun value c => 10 * value + digitValue c) 0

/-- The decimal text of a natural number. -/
def natText (n : Nat) : String :=
  String.ofList (decimalDigits n)

/-- The decimal text of an integer. -/
def integerText (n : Int) : String :=
  String.ofList (integerDigits n)

end TextTemplate.Number
