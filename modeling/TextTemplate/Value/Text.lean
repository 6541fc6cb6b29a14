import TextTemplate.Number.FloatText
import TextTemplate.Text.Quoted
import TextTemplate.Value.Basic

/-!
# Rendered values

`Value.text` is how a template shows a value, `Value.repr` how it is shown within another one and in
messages, where texts are quoted and null is visible.
-/

namespace TextTemplate.Value

mutual
/-- The text of a value. A map that stands for a value shows that value. -/
def text : Value → String
  | null => ""
  | bool value => if value then "true" else "false"
  | int value => Number.integerText value.toInt
  | float value => Number.floatText value
  | decimal value => value.text
  | str content => content
  | dateTime value => value.text
  | range value => value.text
  | list items => "[" ++ itemsText false items ++ "]"
  | map context => contextText context
  | closure _ => "<lambda>"

/-- The text of a map. -/
def contextText : Context → String
  | ⟨entries⟩ =>
    match defaultText entries with
    | some shown => shown
    | none => "\x7b" ++ entriesText false entries ++ "\x7d"

/-- The text of the value that a map stands for. -/
def defaultText : List (String × Value) → Option String
  | [] => none
  | (key, value) :: rest =>
    if key = Context.defaultKey then some (text value) else defaultText rest

/-- The text of a value within another one. -/
def repr : Value → String
  | null => "null"
  | bool value => if value then "true" else "false"
  | int value => Number.integerText value.toInt
  | float value => Number.floatText value
  | decimal value => value.text
  | str content => Text.quoted content
  | dateTime value => Text.quoted value.text
  | range value => value.text
  | list items => "[" ++ itemsText false items ++ "]"
  | map context => contextText context
  | closure _ => "<lambda>"

/-- The texts of items with commas between them, and before the first one if others precede it. -/
def itemsText (preceded : Bool) : List Value → String
  | [] => ""
  | item :: items => (if preceded then ", " else "") ++ repr item ++ itemsText true items

/-- The texts of entries with commas between them, and before the first one if others precede
it. -/
def entriesText (preceded : Bool) : List (String × Value) → String
  | [] => ""
  | (key, value) :: rest =>
    (if preceded then ", " else "") ++ Text.quoted key ++ ": " ++ repr value ++
      entriesText true rest
end

/-- The texts of values, one after the other. -/
def joinedText (values : List Value) : String :=
  String.join (values.map text)

end TextTemplate.Value
