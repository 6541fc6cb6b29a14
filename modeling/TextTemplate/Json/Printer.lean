import TextTemplate.Json.Document

/-!
# Writing JSON

`Document.onto` puts the compact text of a document in front of given characters. Strings escape
what JSON requires and nothing else.
-/

namespace TextTemplate.Json

/-- The form of one character within a string. -/
def escapedChar (c : Char) : List Char :=
  if c = '"' then ['\\', '"']
  else if c = '\\' then ['\\', '\\']
  else if c = '\n' then ['\\', 'n']
  else if c = '\r' then ['\\', 'r']
  else if c = '\t' then ['\\', 't']
  else if c.toNat = 0x08 then ['\\', 'b']
  else if c.toNat = 0x0c then ['\\', 'f']
  else if c.toNat < 0x20 then
    ['\\', 'u', '0', '0', Number.digitChar (c.toNat / 16), Number.digitChar (c.toNat % 16)]
  else [c]

/-- Puts escaped characters in front of `later`. -/
def escapedOnto (later : List Char) : List Char → List Char
  | [] => later
  | c :: rest => escapedChar c ++ escapedOnto later rest

/-- Puts a string in front of `later`. Half of a surrogate pair has no text of its own and is
written as the replacement character. -/
def stringOnto (text : Option String) (later : List Char) : List Char :=
  '"' :: escapedOnto ('"' :: later) (text.getD "\ufffd").toList

/-- The text of a number. -/
def Numeral.digits (n : Numeral) : List Char :=
  (if n.negative then ['-'] else []) ++ n.whole ++
    (if n.fraction.isEmpty then [] else '.' :: n.fraction) ++
    match n.exponent with
    | some (negative, digits) => 'e' :: ((if negative then ['-'] else []) ++ digits)
    | none => []

mutual
/-- Puts the compact text of the document in front of `later`. -/
def Document.onto (later : List Char) : Document → List Char
  | .null => 'n' :: 'u' :: 'l' :: 'l' :: later
  | .boolean true => 't' :: 'r' :: 'u' :: 'e' :: later
  | .boolean false => 'f' :: 'a' :: 'l' :: 's' :: 'e' :: later
  | .number numeral => numeral.digits ++ later
  | .string text => stringOnto text later
  | .array items => '[' :: itemsOnto (']' :: later) false items
  | .object members => '\x7b' :: membersOnto ('\x7d' :: later) false members

/-- Puts the items in front of `later`; `more` asks for a comma before the first of them. -/
def itemsOnto (later : List Char) (more : Bool) : List Document → List Char
  | [] => later
  | item :: items =>
    (if more then [','] else []) ++ item.onto (itemsOnto later true items)

/-- Puts the members in front of `later`; `more` asks for a comma before the first of them. -/
def membersOnto (later : List Char) (more : Bool) : List (Option String × Document) → List Char
  | [] => later
  | (key, value) :: members =>
    (if more then [','] else []) ++
      stringOnto key (':' :: value.onto (membersOnto later true members))
end

/-- The characters of the compact text. -/
def Document.chars (document : Document) : List Char :=
  document.onto []

/-- The compact text of the document. -/
def Document.print (document : Document) : String :=
  String.ofList document.chars

end TextTemplate.Json
