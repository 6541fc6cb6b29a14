import TextTemplate.Text.Columns

/-!
# Lines of a source

A source divided into lines. Places are counted in characters, and each character of a line is drawn
in one or more columns, or in none.
-/

namespace TextTemplate.Report

/-- A line of a source: where it begins, counted in characters, and its characters together with
those that end it. -/
structure Line where
  offset : Nat
  chars : List Char
deriving DecidableEq, Repr

/-- The place behind the line. -/
def Line.stop (line : Line) : Nat :=
  line.offset + line.chars.length

/-- Whether the place is in the line. -/
def Line.holds (line : Line) (place : Nat) : Bool :=
  decide (line.offset ≤ place) && decide (place < line.stop)

/-- Whether the character ends a line. -/
def endsLine (c : Char) : Bool :=
  c == '\n' || c == '\r' || c == '\x0b' || c == '\x0c' || c == '\u0085' || c == '\u2028' ||
    c == '\u2029'

/-- Whether the character is white space. -/
def isSpace (c : Char) : Bool :=
  let code := c.toNat
  (0x09 ≤ code && code ≤ 0x0d) || code == 0x20 || code == 0x85 || code == 0xa0 ||
    code == 0x1680 || (0x2000 ≤ code && code ≤ 0x200a) || code == 0x2028 || code == 0x2029 ||
    code == 0x202f || code == 0x205f || code == 0x3000

/-- The lines of characters, where `line` holds the characters of the current one, latest first. -/
def linesFrom (line : List Char) (offset : Nat) : List Char → List Line
  | [] => if line.isEmpty then [] else [⟨offset, line.reverse⟩]
  | '\r' :: '\n' :: rest =>
    let chars := ('\n' :: '\r' :: line).reverse
    ⟨offset, chars⟩ :: linesFrom [] (offset + chars.length) rest
  | c :: rest =>
    if endsLine c then
      let chars := (c :: line).reverse
      ⟨offset, chars⟩ :: linesFrom [] (offset + chars.length) rest
    else linesFrom (c :: line) offset rest

/-- The lines of a source, of which there is at least one. -/
def linesOf (source : List Char) : List Line :=
  if source.isEmpty then [⟨0, []⟩] else linesFrom [] 0 source

/-- The number of the line with a place, counted from zero; the end of the source is in the last
line. -/
def lineAt? (lines : List Line) (length place : Nat) : Option Nat :=
  if place ≤ length then some ((lines.filter (·.offset ≤ place)).length - 1) else none

/-- A character of a line as it is drawn at a column: white space as blanks, and a tab up to the
next fourth column. -/
def cells (column : Nat) (c : Char) : Char × Nat :=
  if c = '\t' then (' ', 4 - column % 4)
  else if isSpace c then (' ', 1)
  else (c, Text.columns c)

/-- The characters of a line without white space at its end. -/
def Line.shown (line : Line) : List Char :=
  (line.chars.reverse.dropWhile isSpace).reverse

/-- The number of cells of a column of the line; behind its end each column is one cell. -/
def Line.width (line : Line) (column : Nat) : Nat :=
  match line.shown[column]? with
  | some c => (cells column c).2
  | none => 1

end TextTemplate.Report
