import TextTemplate.Number.Digits
import TextTemplate.Text.HiddenTable

/-!
# Quoted text

Text between double quotes, as it stands in rendered lists, map keys and messages: a quote, a
backslash and the common controls have short escapes, and any other hidden character is written
by its number.
-/

namespace TextTemplate.Text

/-- Whether quoted text writes the character by number unless it has a short escape. -/
def isHidden (c : Char) : Bool :=
  if c.toNat < 128 then c.toNat < 32 || c.toNat == 127 else CodeRange.covers hiddenRanges c

/-- The quoted form of one character. -/
def quotedChar (c : Char) : List Char :=
  if c = '"' then ['\\', '"']
  else if c = '\\' then ['\\', '\\']
  else if c = '\n' then ['\\', 'n']
  else if c = '\t' then ['\\', 't']
  else if c = '\r' then ['\\', 'r']
  else if c.toNat = 0 then ['\\', '0']
  else if isHidden c then ['\\', 'u', '\x7b'] ++ Number.digitsIn 16 c.toNat ++ ['\x7d']
  else [c]

/-- The text between double quotes, with what needs it escaped. -/
def quoted (text : String) : String :=
  String.ofList ('"' :: (text.toList.flatMap quotedChar ++ ['"']))

end TextTemplate.Text
