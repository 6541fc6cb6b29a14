/-!
# Pieces of a drawing

A drawing is a list of pieces of text, some of them inked, and is printed with or without colours.
-/

namespace TextTemplate.Report

/-- The colours of a drawing. -/
inductive Ink where
  | error
  | warning
  | advice
  /-- The frame around the source. -/
  | frame
  /-- The margin beside what is not a line of the source. -/
  | margin
  /-- Characters of the source that the diagnostic is not about. -/
  | source
  /-- The stretch that the diagnostic is about, and its mark. -/
  | mark
  | help
deriving DecidableEq, Repr

/-- The terminal's code for a colour. -/
def Ink.code : Ink → String
  | error => "31"
  | warning => "33"
  | advice => "38;5;147"
  | frame => "38;5;246"
  | margin => "38;5;240"
  | source => "38;5;249"
  | mark => "38;5;155"
  | help => "38;5;115"

/-- A piece of a drawing. -/
structure Piece where
  ink : Option Ink
  text : String
deriving DecidableEq, Repr

/-- A piece without a colour. -/
def plain (text : String) : Piece := ⟨none, text⟩

/-- A piece in a colour. -/
def inked (ink : Ink) (text : String) : Piece := ⟨some ink, text⟩

/-- As many blanks. -/
def blanks (count : Nat) : Piece :=
  plain (String.ofList (List.replicate count ' '))

/-- The end of a line. -/
def newline : Piece := plain "\n"

/-- The text of a piece, with the codes of its colour if colours are wanted. -/
def Piece.print (color : Bool) (piece : Piece) : String :=
  match piece.ink with
  | some ink => if color then "\x1b[" ++ ink.code ++ "m" ++ piece.text ++ "\x1b[0m" else piece.text
  | none => piece.text

/-- The text of a drawing. -/
def print (color : Bool) (pieces : List Piece) : String :=
  String.join (pieces.map (·.print color))

end TextTemplate.Report
