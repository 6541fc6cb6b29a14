import TextTemplate.Json.Document

/-!
# Reading JSON

`Document.parse?` reads a whole JSON text and refuses everything else. Each reader takes characters
from the front and returns the rest; `fuel` bounds the nesting and the number of items, and as many
steps as there are characters are enough.
-/

namespace TextTemplate.Json

/-- Whether JSON allows the character between tokens. -/
def isBlank (c : Char) : Bool :=
  c == ' ' || c == '\t' || c == '\n' || c == '\r'

/-- Drops leading blanks. -/
def skipBlanks (cs : List Char) : List Char :=
  cs.dropWhile isBlank

/-- Takes the given characters. -/
def takeAll : List Char → List Char → Option (List Char)
  | [], cs => some cs
  | expected :: more, c :: cs => if c = expected then takeAll more cs else none
  | _ :: _, [] => none

/-- The value of a hexadecimal digit. -/
def hexValue? (c : Char) : Option Nat :=
  if c.isDigit then some (c.toNat - 48)
  else if 'a' ≤ c ∧ c ≤ 'f' then some (c.toNat - 87)
  else if 'A' ≤ c ∧ c ≤ 'F' then some (c.toNat - 55)
  else none

/-- Takes the four hexadecimal digits of an escape. -/
def takeUnit : List Char → Option (Nat × List Char)
  | a :: b :: c :: d :: rest => do
    let a ← hexValue? a
    let b ← hexValue? b
    let c ← hexValue? c
    let d ← hexValue? d
    pure (((a * 16 + b) * 16 + c) * 16 + d, rest)
  | _ => none

/-- The character of a one-letter escape. -/
def shortEscape? (c : Char) : Option Char :=
  if c = '"' then some '"'
  else if c = '\\' then some '\\'
  else if c = '/' then some '/'
  else if c = 'b' then some '\x08'
  else if c = 'f' then some '\x0c'
  else if c = 'n' then some '\n'
  else if c = 'r' then some '\r'
  else if c = 't' then some '\t'
  else none

/-- What an escape puts into a string: characters, or half of a surrogate pair, which is no
character and leaves what follows it unread. -/
inductive Unescaped where
  | char (c : Char)
  | unpaired

/-- Whether the unit opens a surrogate pair. -/
def opensPair (unit : Nat) : Bool :=
  0xd800 ≤ unit && unit < 0xdc00

/-- Whether the unit closes a surrogate pair. -/
def closesPair (unit : Nat) : Bool :=
  0xdc00 ≤ unit && unit < 0xe000

/-- Reads the rest of a numeric escape, together with the second half of a pair. -/
def takeNumericEscape (cs : List Char) : Option (Unescaped × List Char) :=
  match takeUnit cs with
  | none => none
  | some (unit, rest) =>
    if opensPair unit then
      match rest with
      | '\\' :: 'u' :: more =>
        match takeUnit more with
        | none => none
        | some (second, after) =>
          if closesPair second then
            some (.char (Char.ofNat (0x10000 + (unit - 0xd800) * 0x400 + (second - 0xdc00))), after)
          else some (.unpaired, rest)
      | _ => some (.unpaired, rest)
    else if closesPair unit then some (.unpaired, rest)
    else some (.char (Char.ofNat unit), rest)

/-- Reads an escape after its backslash. -/
def takeEscape : List Char → Option (Unescaped × List Char)
  | 'u' :: cs => takeNumericEscape cs
  | c :: cs => (shortEscape? c).map fun c => (.char c, cs)
  | [] => none

/-- Reads a string after its opening quote. The characters before are `before`, latest first, or
`none` once one of them was half of a pair. -/
def takeString (before : Option (List Char)) :
    Nat → List Char → Option (Option String × List Char)
  | 0, _ => none
  | fuel + 1, cs =>
    match cs with
    | [] => none
    | '"' :: rest => some (before.map fun chars => String.ofList chars.reverse, rest)
    | '\\' :: rest =>
      match takeEscape rest with
      | some (.char c, rest) => takeString (before.map (c :: ·)) fuel rest
      | some (.unpaired, rest) => takeString none fuel rest
      | none => none
    | c :: rest => if c.toNat < 0x20 then none else takeString (before.map (c :: ·)) fuel rest

/-- Takes leading decimal digits. -/
def takeDigits (cs : List Char) : List Char × List Char :=
  (cs.takeWhile Char.isDigit, cs.dropWhile Char.isDigit)

/-- Reads the digits before the point, which begin with zero only for zero itself. -/
def takeWhole (cs : List Char) : Option (List Char × List Char) :=
  match takeDigits cs with
  | ([], _) => none
  | ('0' :: _ :: _, _) => none
  | (digits, rest) => some (digits, rest)

/-- Reads a point with its digits, if there is one. -/
def takeFraction : List Char → Option (List Char × List Char)
  | '.' :: cs =>
    match takeDigits cs with
    | ([], _) => none
    | (digits, rest) => some (digits, rest)
  | cs => some ([], cs)

/-- Reads the sign and the digits of an exponent. -/
def takeExponentDigits (negative : Bool) (cs : List Char) :
    Option (Option (Bool × List Char) × List Char) :=
  match takeDigits cs with
  | ([], _) => none
  | (digits, rest) => some (some (negative, digits), rest)

/-- Reads an exponent, if there is one. -/
def takeExponent : List Char → Option (Option (Bool × List Char) × List Char)
  | [] => some (none, [])
  | c :: cs =>
    if c = 'e' ∨ c = 'E' then
      match cs with
      | '+' :: cs => takeExponentDigits false cs
      | '-' :: cs => takeExponentDigits true cs
      | cs => takeExponentDigits false cs
    else some (none, c :: cs)

/-- Reads a number without its sign. -/
def takeMagnitude (negative : Bool) (cs : List Char) : Option (Numeral × List Char) := do
  let (whole, cs) ← takeWhole cs
  let (fraction, cs) ← takeFraction cs
  let (exponent, cs) ← takeExponent cs
  pure (⟨negative, whole, fraction, exponent⟩, cs)

/-- Reads a number. -/
def takeNumeral : List Char → Option (Numeral × List Char)
  | '-' :: cs => takeMagnitude true cs
  | cs => takeMagnitude false cs

mutual
/-- Reads a value, with blanks before it. -/
def takeValue : Nat → List Char → Option (Document × List Char)
  | 0, _ => none
  | fuel + 1, cs =>
    match skipBlanks cs with
    | [] => none
    | c :: rest =>
      if c = 'n' then (takeAll ['u', 'l', 'l'] rest).map fun rest => (.null, rest)
      else if c = 't' then (takeAll ['r', 'u', 'e'] rest).map fun rest => (.boolean true, rest)
      else if c = 'f' then
        (takeAll ['a', 'l', 's', 'e'] rest).map fun rest => (.boolean false, rest)
      else if c = '"' then
        (takeString (some []) fuel rest).map fun (text, rest) => (.string text, rest)
      else if c = '[' then
        match skipBlanks rest with
        | ']' :: rest => some (.array [], rest)
        | rest => (takeItems fuel rest).map fun (items, rest) => (.array items, rest)
      else if c = '\x7b' then
        match skipBlanks rest with
        | '\x7d' :: rest => some (.object [], rest)
        | rest => (takeMembers fuel rest).map fun (members, rest) => (.object members, rest)
      else (takeNumeral (c :: rest)).map fun (numeral, rest) => (.number numeral, rest)

/-- Reads the items of an array that has at least one, with the closing bracket. -/
def takeItems : Nat → List Char → Option (List Document × List Char)
  | 0, _ => none
  | fuel + 1, cs =>
    match takeValue fuel cs with
    | none => none
    | some (item, rest) =>
      match skipBlanks rest with
      | ',' :: rest => (takeItems fuel rest).map fun (items, rest) => (item :: items, rest)
      | ']' :: rest => some ([item], rest)
      | _ => none

/-- Reads the members of an object that has at least one, with the closing brace. -/
def takeMembers : Nat → List Char → Option (List (Option String × Document) × List Char)
  | 0, _ => none
  | fuel + 1, cs =>
    match skipBlanks cs with
    | '"' :: rest =>
      match takeString (some []) fuel rest with
      | none => none
      | some (key, rest) =>
        match skipBlanks rest with
        | ':' :: rest =>
          match takeValue fuel rest with
          | none => none
          | some (value, rest) =>
            match skipBlanks rest with
            | ',' :: rest =>
              (takeMembers fuel rest).map fun (members, rest) => ((key, value) :: members, rest)
            | '\x7d' :: rest => some ([(key, value)], rest)
            | _ => none
        | _ => none
    | _ => none
end

/-- Reads a whole JSON text given by its characters. -/
def Document.parseChars? (cs : List Char) : Option Document :=
  match takeValue (cs.length + 1) cs with
  | some (document, rest) => if (skipBlanks rest).isEmpty then some document else none
  | none => none

/-- Reads a whole JSON text. -/
def Document.parse? (text : String) : Option Document :=
  Document.parseChars? text.toList

end TextTemplate.Json
