import TextTemplate.Value.Basic

/-!
# Access by index

An integer selects an element, counted from the end when it is negative; a range selects a slice,
with its bounds counted likewise; anything else selects the entry of a map. What selects nothing is
null.
-/

namespace TextTemplate

/-- A position in `length` elements, counted from the end when it is negative. -/
def fromEnd (length : Nat) (index : Int) : Int :=
  if index < 0 then length + index else index

/-- The element at an index, counted from the end when it is negative. -/
def elementAt? {α : Type} (items : List α) (index : Int64) : Option α :=
  let index := fromEnd items.length index.toInt
  if 0 ≤ index then items[index.toNat]? else none

/-- The positions in `length` elements that a range selects. -/
def IntRange.positions (range : IntRange) (length : Nat) : List Nat :=
  let first := max (fromEnd length range.start.toInt) 0
  let last := min (fromEnd length range.stop.toInt) (length - 1)
  if last < first then []
  else
    let stride := range.stride.toNat
    (List.range ((last - first).toNat / stride + 1)).map fun step => first.toNat + step * stride

/-- The elements that a range selects. -/
def IntRange.slice {α : Type} (range : IntRange) (items : List α) : List α :=
  (range.positions items.length).filterMap (items[·]?)

namespace Value

/-- The property of a map, and null for anything else. -/
def lookup (subject : Value) (key : String) : Value :=
  match subject with
  | map context => (context.get? key).getD null
  | _ => null

/-- The property, element or slice that an index selects. -/
def access (subject index : Value) : Value :=
  match subject, index with
  | list items, int index => (elementAt? items index).getD null
  | range members, int index =>
    match members.get? index with
    | some member => int member
    | none => null
  | list items, range selected => list (selected.slice items)
  | str text, range selected => str (String.ofList (selected.slice text.toList))
  | map context, str key => (context.get? key).getD null
  | map context, int key => (context.get? (Number.integerText key.toInt)).getD null
  | _, _ => null

end Value

end TextTemplate
