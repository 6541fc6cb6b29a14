import TextTemplate.Json.Document
import TextTemplate.Keyed

/-!
# Plain JSON values

What a JSON text means to a host: integers of 64 bits with or without a sign, doubles, and objects
as keyed lists. Of repeated keys the last one counts. `Document.toJson?` refuses numbers that are
infinite, strings with half a surrogate pair, and nesting beyond `depthLimit`.
-/

namespace TextTemplate

/-- An integer that JSON data may hold: 64 bits hold it with a sign, or without one. -/
structure Json.Integer where
  toInt : Int
  lower : -9223372036854775808 ≤ toInt
  upper : toInt < 18446744073709551616
deriving DecidableEq, Repr

namespace Json.Integer

/-- The integer, if JSON data may hold it. -/
def of? (n : Int) : Option Json.Integer :=
  if h : -9223372036854775808 ≤ n ∧ n < 18446744073709551616 then some ⟨n, h.1, h.2⟩ else none

/-- The integer of a 64-bit word with a sign. -/
def ofInt64 (word : Int64) : Json.Integer where
  toInt := word.toInt
  lower := Int64.le_toInt word
  upper := Int.lt_trans (Int64.toInt_lt word) (by decide)

/-- The integer as a 64-bit word with a sign, if one holds it. -/
def int64? (n : Json.Integer) : Option Int64 :=
  Number.int64? n.toInt

/-- The nearest double. -/
def toFloat (n : Json.Integer) : Float :=
  Float.ofInt n.toInt

end Json.Integer

/-- A plain JSON value. The members of an object are ascending by key. -/
inductive Json where
  | null
  | boolean (value : Bool)
  | integer (value : Json.Integer)
  | float (value : Float)
  | string (text : String)
  | array (items : List Json)
  | object (members : List (String × Json))

namespace Json

/-- Arrays and objects may be nested up to this many levels. -/
def depthLimit : Nat := 127

/-- The plain value of a number: an integer if 64 bits hold it, else a double. -/
def Numeral.toJson? (n : Numeral) : Option Json :=
  match n.int?.bind Integer.of? with
  | some value => some (.integer value)
  | none => n.float?.map .float

mutual
/-- The plain value of a document, if it has one within `depth` levels. -/
def Document.toJsonWithin? (depth : Nat) : Document → Option Json
  | .null => some .null
  | .boolean value => some (.boolean value)
  | .number numeral => numeral.toJson?
  | .string text => text.map .string
  | .array items =>
    match depth with
    | 0 => none
    | depth + 1 => (itemsToJson? depth items).map .array
  | .object members =>
    match depth with
    | 0 => none
    | depth + 1 => (membersToJson? depth members).map fun pairs => .object (Keyed.ofPairs pairs)

/-- The plain values of items. -/
def itemsToJson? (depth : Nat) : List Document → Option (List Json)
  | [] => some []
  | item :: items => do
    let item ← item.toJsonWithin? depth
    let items ← itemsToJson? depth items
    pure (item :: items)

/-- The plain values of members, in the order in which they are written. -/
def membersToJson? (depth : Nat) :
    List (Option String × Document) → Option (List (String × Json))
  | [] => some []
  | (key, value) :: members => do
    let key ← key
    let value ← value.toJsonWithin? depth
    let members ← membersToJson? depth members
    pure ((key, value) :: members)
end

/-- The plain value of a document, if it has one. -/
def Document.toJson? (document : Document) : Option Json :=
  document.toJsonWithin? depthLimit

end Json

end TextTemplate
