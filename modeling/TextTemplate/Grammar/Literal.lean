import TextTemplate.Grammar.Parser
import TextTemplate.Number.FloatReader
import TextTemplate.Time.Reader

/-!
# Literals

The values of literals, read from their text. A text may have the shape of a literal and yet denote
no value (`BadLiteral`), as a number that is too large.
-/

namespace TextTemplate.Grammar

/-- The kinds of literals whose text may denote no value. -/
inductive LiteralKind where
  | integer
  | decimal
  | timestamp
  | captureIndex
deriving DecidableEq, Repr

/-- The word for a kind of literal in messages. -/
def LiteralKind.name : LiteralKind → String
  | integer => "integer"
  | decimal => "decimal"
  | timestamp => "timestamp"
  | captureIndex => "capture index"

/-- A literal that denotes no value. -/
structure BadLiteral where
  kind : LiteralKind
  lexeme : Lexeme
deriving DecidableEq, Repr

/-- The integer that digits with an optional minus sign denote. -/
def readInteger : List Char → Int
  | '-' :: digits => -(Number.ofDigits digits : Int)
  | digits => Number.ofDigits digits

/-- The double nearest to the decimal that digits with a point denote. -/
def readDecimal (digits : List Char) : Float :=
  let whole := digits.takeWhile (· != '.')
  let fraction := (digits.dropWhile (· != '.')).drop 1
  Number.nearestFloat (Number.ofDigits (whole ++ fraction)) (-(fraction.length : Int))

/-- The value of an integer literal. -/
def Lexeme.int64? (lexeme : Lexeme) : Option Int64 :=
  Number.int64? (readInteger lexeme.text)

/-- The value of a decimal literal: the nearest double, unless that is infinite. -/
def Lexeme.float? (lexeme : Lexeme) : Option Float :=
  let value := match lexeme.text with
    | '-' :: digits => -readDecimal digits
    | digits => readDecimal digits
  if value.isFinite then some value else none

/-- The value of a timestamp literal. -/
def Lexeme.timestamp? (lexeme : Lexeme) : Option Time.Timestamp :=
  Time.Timestamp.ofLiteral? lexeme.text

/-- The value of a capture index. -/
def Lexeme.uint64? (lexeme : Lexeme) : Option UInt64 :=
  Number.uint64? (Number.ofDigits lexeme.text)

end TextTemplate.Grammar
