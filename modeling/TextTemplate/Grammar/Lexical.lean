import TextTemplate.Grammar.Parser

/-!
# Names, numbers and words

The stretches of characters from which names and literals are put together. They hold no blanks.
-/

namespace TextTemplate.Grammar

open TextTemplate.Grammar.Parser

/-- Whether the character is an ASCII letter. -/
def isLetter (c : Char) : Bool :=
  ('a' ≤ c && c ≤ 'z') || ('A' ≤ c && c ≤ 'Z')

/-- Whether a name may begin with the character. -/
def beginsName (c : Char) : Bool :=
  isLetter c || c == '_'

/-- Whether a name may go on with the character. -/
def continuesName (c : Char) : Bool :=
  isLetter c || c.isDigit || c == '_'

/-- Reads a name. -/
def ident : Parser (List Char) := do
  let first ← satisfy beginsName
  let more ← takeWhile continuesName
  return first :: more

/-- Reads a run of digits. -/
def digits : Parser Unit := do
  let _ ← takeWhile1 Char.isDigit
  return ()

/-- Reads exactly `count` digits. -/
def digitCount (count : Nat) : Parser Unit :=
  exactly count Char.isDigit

/-- Reads a minus sign, if there is one. -/
def sign : Parser Unit := do
  let _ ← optional (char '-')
  return ()

/-- Reads a date. -/
def date : Parser Unit := do
  digitCount 4
  let _ ← char '-'
  digitCount 2
  let _ ← char '-'
  digitCount 2

/-- Reads the fraction of a second. -/
def secondFraction : Parser Unit := do
  let _ ← char '.'
  digits

/-- Reads a second with an optional fraction. -/
def second : Parser Unit := do
  let _ ← char ':'
  digitCount 2
  let _ ← optional secondFraction
  return ()

/-- Reads a time of day. -/
def time : Parser Unit := do
  digitCount 2
  let _ ← char ':'
  digitCount 2
  let _ ← optional second
  return ()

/-- Reads an offset in hours and minutes. -/
def numericOffset : Parser Unit := do
  let _ ← satisfy fun c => c == '+' || c == '-'
  digitCount 2
  let _ ← optional (char ':')
  digitCount 2

/-- Reads an offset. -/
def offset : Parser Unit :=
  orElse
    (do
      let _ ← satisfy fun c => c == 'Z' || c == 'z'
      return ())
    numericOffset

/-- Reads a word in any mixture of capital and small letters. -/
def word : List Char → Parser Unit
  | [] => pure ()
  | letter :: more => do
    let _ ← satisfy fun c => c.toLower == letter
    word more

/-- Reads one character of a string, which a backslash may stand before. -/
def stringPart : Parser (List Char) :=
  orElse
    (do
      let c ← satisfy fun c => c != '"' && c != '\\'
      return [c])
    (do
      let _ ← char '\\'
      let c ← satisfy fun _ => true
      return ['\\', c])

/-- What an escaped character stands for. -/
def unescapedChar (c : Char) : Char :=
  if c = 'n' then '\n'
  else if c = 't' then '\t'
  else if c = 'r' then '\r'
  else c

/-- Resolves the escapes of a string. -/
def unescaped : List Char → List Char
  | [] => []
  | '\\' :: c :: rest => unescapedChar c :: unescaped rest
  | c :: rest => c :: unescaped rest

end TextTemplate.Grammar
