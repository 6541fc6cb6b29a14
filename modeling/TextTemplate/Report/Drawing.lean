import TextTemplate.Number.Digits
import TextTemplate.Report.Diagnostic
import TextTemplate.Report.Line
import TextTemplate.Report.Piece

/-!
# Drawn diagnostics

A diagnostic drawn against its source: the line that it is about, the stretch marked below it, and
the message beside the mark. The bounds of the stretch are read as counts of characters.
-/

namespace TextTemplate.Report

/-- A label: the stretch of the source, in characters, and the lines of its two ends. -/
structure Label where
  start : Nat
  stop : Nat
  firstLine : Nat
  lastLine : Nat
  message : String
deriving DecidableEq, Repr

namespace Label

/-- The last place of the label; an empty one ends where it starts. -/
def last (label : Label) : Nat :=
  max (label.stop - 1) label.start

/-- Whether the label goes over several lines. -/
def isMultiline (label : Label) : Bool :=
  label.firstLine != label.lastLine

/-- Whether the place is in the label. -/
def holds (label : Label) (place : Nat) : Bool :=
  decide (label.start ≤ place) && decide (place < label.stop)

/-- The label of a diagnostic, if both its ends are in the source. -/
def of? (lines : List Line) (length : Nat) (span : Span) (message : String) : Option Label := do
  let first ← lineAt? lines length span.start
  let last ← if span.stop ≤ span.start then some first else lineAt? lines length (span.stop - 1)
  pure ⟨span.start, span.stop, first, last, message⟩

end Label

/-- The margin of a line of the source, with the number of the line. -/
def lineMargin (width number : Nat) : List Piece :=
  let digits := Number.decimalDigits number
  let padding := List.replicate (width - digits.length) ' '
  [plain " ", inked .frame (String.ofList (padding ++ digits) ++ " │"), plain " "]

/-- The margin of anything else; a gap stands for lines that are left out. -/
def sideMargin (width : Nat) (gap : Bool) : List Piece :=
  [plain " ", inked .margin (String.ofList (List.replicate (width + 1) ' ') ++
    (if gap then "┆" else "│")), plain " "]

/-- The characters of a line, those of the label in its colour. -/
def sourceLine (label : Label) (line : Line) : List Piece :=
  (line.shown.zipIdx).flatMap fun (c, column) =>
    let ink := if label.holds (line.offset + column) then Ink.mark else Ink.source
    let (shown, count) := cells column c
    if isSpace c then List.replicate count (inked ink (shown.toString))
    else [inked ink shown.toString]

/-- A cell of a mark, followed by the filling of the rest of its column. -/
def markColumn (head tail : Piece) (width : Nat) : List Piece :=
  if width = 0 then [] else head :: List.replicate (width - 1) tail

/-- Below a line: the label underlined, with a joint in its middle. -/
def underline (label : Label) (line : Line) : List Piece :=
  let middle := max ((label.start + label.stop) / 2) label.start
  (List.range (label.stop - line.offset + 2)).flatMap fun column =>
    let place := line.offset + column
    let dash := inked .mark "─"
    let (head, tail) :=
      if place = middle then
        if label.holds place then (inked .mark "┬", dash)
        else (inked .mark "│", inked .mark " ")
      else if label.holds place then (dash, dash)
      else (plain " ", plain " ")
    markColumn head tail (line.width column)

/-- Below the underlining: a corner from the joint to the message. -/
def pointer (label : Label) (line : Line) : List Piece :=
  let middle := max ((label.start + label.stop) / 2) label.start
  let dash := inked .mark "─"
  (List.range (label.stop - line.offset + 2)).flatMap fun column =>
    let place := line.offset + column
    if place < middle then List.replicate (line.width column) (plain " ")
    else markColumn (if place = middle then inked .mark "╰" else dash) dash (line.width column)

/-- A line with the whole of a label below it. -/
def inlineLabel (width : Nat) (label : Label) (number : Nat) (line : Line) : List Piece :=
  if label.start < line.offset ∨ line.stop < label.stop then
    sideMargin width false ++ [newline]
  else
    lineMargin width (number + 1) ++ sourceLine label line ++ [newline] ++
      sideMargin width false ++ underline label line ++ [newline] ++
      sideMargin width false ++ pointer label line ++ [plain (" " ++ label.message), newline]

/-- A line in which a label over several lines begins. -/
def firstLabelLine (width : Nat) (label : Label) (number : Nat) (line : Line) : List Piece :=
  lineMargin width (number + 1) ++
    [inked .mark "╭", inked .mark "─", inked .mark "▶", inked .mark " "] ++
    sourceLine label line ++ [newline]

/-- A line in which a label over several lines ends, with the message below it. -/
def lastLabelLine (width : Nat) (label : Label) (number : Nat) (line : Line) : List Piece :=
  let dash := inked .mark "─"
  let columns := List.range (line.chars.length + 2)
  lineMargin width (number + 1) ++
    [inked .mark "├", dash, inked .mark "▶", inked .mark " "] ++
    sourceLine label line ++ [newline] ++
    sideMargin width false ++ [inked .mark "│", blanks 3] ++
    columns.flatMap (fun column => [blanks (line.width column)]) ++ [newline] ++
    sideMargin width false ++ [inked .mark "╰", dash, dash, dash] ++
    columns.flatMap (fun column => List.replicate (line.width column) dash) ++
    [plain (" " ++ label.message), newline]

/-- What stands for the lines within a label over several lines. -/
def gapLine (width : Nat) : List Piece :=
  sideMargin width true ++ [inked .mark "┆", blanks 3, newline]

/-- The lines of a label over several lines, of which those within it are drawn as one gap. -/
def multilineLabel (width : Nat) (label : Label) (lines : List (Nat × Line)) : List Piece :=
  match lines with
  | [] => []
  | (number, line) :: inner =>
    let closing := inner.filter fun (_, line) => line.holds label.last
    let within := inner.filter fun (_, line) => !line.holds label.last
    firstLabelLine width label number line ++ (if within.isEmpty then [] else gapLine width) ++
      closing.flatMap fun (number, line) => lastLabelLine width label number line

/-- A line without the carriage return at its end. -/
def withoutReturn (reversed : List Char) : List Char :=
  match reversed with
  | '\r' :: line => line.reverse
  | line => line.reverse

/-- The lines of a text without what ends them, where `line` holds the characters of the current
one, latest first. -/
def textLines (line : List Char) : List Char → List (List Char)
  | [] => if line.isEmpty then [] else [line.reverse]
  | '\n' :: rest => withoutReturn line :: textLines [] rest
  | c :: rest => textLines (c :: line) rest

/-- The lines of a hint, further ones below the beginning of the first. -/
def helpLines (width : Nat) (help : String) : List Piece :=
  sideMargin width false ++ [newline] ++
    match (textLines [] help.toList).map String.ofList with
    | [] => []
    | first :: more =>
      sideMargin width false ++ [inked .help "Help", plain (": " ++ first), newline] ++
        more.flatMap fun line => sideMargin width false ++ [blanks 6, plain line, newline]

/-- The word for a severity with its colour. -/
def heading : Severity → Ink × String
  | .error => (.error, "Error:")
  | .warning => (.warning, "Warning:")
  | .info => (.advice, "Advice:")

/-- A code in brackets, filled up to two characters. -/
def codeText (code : String) : String :=
  "[" ++ code ++ String.ofList (List.replicate (2 - code.length) ' ') ++ "] "

/-- The first line of a drawing: severity, code and message. -/
def headline (diagnostic : Diagnostic) : List Piece :=
  let (ink, word) := heading diagnostic.severity
  let code := (diagnostic.code.map codeText).getD ""
  [inked ink (code ++ word), plain (" " ++ diagnostic.message), newline]

/-- The line and the column where a label begins, both counted from one. -/
def Label.location (label : Label) (lines : List Line) : Nat × Nat :=
  let offset := match lines[label.firstLine]? with
    | some line => line.offset
    | none => 0
  (label.firstLine + 1, label.start - offset + 1)

/-- The text of a location. -/
def locationText (location : Nat × Nat) : String :=
  "<template>:" ++ Number.natText location.1 ++ ":" ++ Number.natText location.2

/-- The upper edge of the frame, with the location in it. -/
def upperEdge (width : Nat) (location : Nat × Nat) : List Piece :=
  [blanks (width + 2), inked .frame "╭", inked .frame "─", inked .frame "[",
    plain (" " ++ locationText location ++ " "), inked .frame "]", newline,
    blanks (width + 2), inked .frame "│", newline]

/-- The lower edge of the frame. -/
def lowerEdge (width : Nat) : List Piece :=
  [inked .frame (String.ofList (List.replicate (width + 2) '─') ++ "╯"), newline]

/-- The lines that a label is about, with the label. -/
def labelledLines (width : Nat) (label : Label) (lines : List Line) : List Piece :=
  let numbered := (lines.zipIdx).map fun (line, number) => (number, line)
  let within := numbered.filter fun (number, _) =>
    decide (label.firstLine ≤ number) && decide (number ≤ label.lastLine)
  if label.isMultiline then multilineLabel width label within
  else within.flatMap fun (number, line) => inlineLabel width label number line

/-- The drawing of a diagnostic about a source. A diagnostic that is about no place in it is only
its first line. -/
def draw (source : List Char) (diagnostic : Diagnostic) : List Piece :=
  let lines := linesOf source
  headline diagnostic ++
    match Label.of? lines source.length diagnostic.span diagnostic.message with
    | none => []
    | some label =>
      let width := (Number.decimalDigits (label.lastLine + 1)).length
      upperEdge width (label.location lines) ++ labelledLines width label lines ++
        (match diagnostic.help with
          | some help => helpLines width help
          | none => []) ++
        lowerEdge width

end TextTemplate.Report
