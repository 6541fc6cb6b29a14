import TextTemplate.Json.Basic
import TextTemplate.Value.Basic

/-!
# Values as JSON

The plain JSON form of a value. Types that JSON lacks become strings; closures and doubles that are
not finite become null.
-/

namespace TextTemplate

namespace Value

mutual
/-- The plain JSON form of a value. -/
def toJson : Value → Json
  | null => .null
  | bool value => .boolean value
  | int value => .integer (.ofInt64 value)
  | float value => if value.isFinite then .float value else .null
  | decimal value => .string value.text
  | str text => .string text
  | dateTime value => .string value.text
  | range value => .string value.text
  | list items => .array (itemsToJson items)
  | map context => contextToJson context
  | closure _ => .null

/-- The object of a context. -/
def contextToJson : Context → Json
  | ⟨entries⟩ => .object (entriesToJson entries)

/-- The plain JSON forms of items. -/
def itemsToJson : List Value → List Json
  | [] => []
  | item :: items => toJson item :: itemsToJson items

/-- The members of the object of a context. -/
def entriesToJson : List (String × Value) → List (String × Json)
  | [] => []
  | (key, value) :: rest => (key, toJson value) :: entriesToJson rest
end

end Value

/-- The object of a context. -/
def Context.toJson (context : Context) : Json :=
  Value.contextToJson context

namespace Value

/-- The value of an integer of JSON data: the integer itself if a 64-bit word with a sign holds it,
else the nearest double. -/
def ofJsonInteger (n : Json.Integer) : Value :=
  match n.int64? with
  | some value => int value
  | none => float n.toFloat

mutual
/-- The value that a host holds for plain JSON data, with only the keys brought to lower case. -/
def ofJson : Json → Value
  | .null => null
  | .boolean value => bool value
  | .integer value => ofJsonInteger value
  | .float value => float value
  | .string text => str text
  | .array items => list (itemsOfJson items)
  | .object members => map (.ofPairs (pairsOfJson members))

/-- The values of the items of an array. -/
def itemsOfJson : List Json → List Value
  | [] => []
  | item :: items => ofJson item :: itemsOfJson items

/-- The pairs of the members of an object. -/
def pairsOfJson : List (String × Json) → List (String × Value)
  | [] => []
  | (key, value) :: rest => (key, ofJson value) :: pairsOfJson rest
end

end Value

end TextTemplate
