/-!
# Cursors

A cursor is a place in a source: the characters still to be read. Places are measured in bytes from
the end, so that a place does not move when text is put in front of the source.
-/

namespace TextTemplate.Grammar

/-- The number of bytes of the characters in UTF-8. -/
def byteCount : List Char → Nat
  | [] => 0
  | c :: cs => c.utf8Size + byteCount cs

/-- The characters from the given number of bytes on. -/
def dropBytes : Nat → List Char → List Char
  | 0, cs => cs
  | _ + 1, [] => []
  | count + 1, c :: cs => dropBytes (count + 1 - c.utf8Size) cs

/-- The characters up to the given number of bytes. -/
def takeBytes : Nat → List Char → List Char
  | 0, _ => []
  | _ + 1, [] => []
  | count + 1, c :: cs => c :: takeBytes (count + 1 - c.utf8Size) cs

/-- A place in a source. -/
structure Cursor where
  /-- The characters still to be read. -/
  rest : List Char
  /-- The number of bytes still to be read. -/
  bytesLeft : Nat
  agrees : bytesLeft = byteCount rest

namespace Cursor

/-- The start of the source. -/
def ofChars (source : List Char) : Cursor :=
  ⟨source, byteCount source, rfl⟩

/-- The first place that lies behind all leading characters with the property. -/
def skipFrom (p : Char → Bool) :
    (rest : List Char) → (bytesLeft : Nat) → bytesLeft = byteCount rest → Cursor
  | [], bytesLeft, agrees => ⟨[], bytesLeft, agrees⟩
  | c :: rest, bytesLeft, agrees =>
    if p c then
      skipFrom p rest (bytesLeft - c.utf8Size) (by simp only [byteCount] at agrees; omega)
    else ⟨c :: rest, bytesLeft, agrees⟩

/-- The first place that lies behind all leading characters with the property. -/
def dropWhile (p : Char → Bool) (c : Cursor) : Cursor :=
  skipFrom p c.rest c.bytesLeft c.agrees

/-- The next character with the place behind it. -/
def next? (c : Cursor) : Option (Char × Cursor) :=
  match c with
  | ⟨[], _, _⟩ => none
  | ⟨char :: rest, bytesLeft, agrees⟩ =>
    some (char, ⟨rest, bytesLeft - char.utf8Size, by simp only [byteCount] at agrees; omega⟩)

end Cursor

end TextTemplate.Grammar
