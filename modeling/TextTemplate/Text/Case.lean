import TextTemplate.Text.CaseTable

/-!
# Letter case

Lower-casing and upper-casing of whole texts by the full mappings of Unicode: a character may become
several (`ß` becomes `SS`), and a capital sigma that ends a word becomes `ς`.
-/

namespace TextTemplate.Text

/-- The first image of a code point under the runs, if one reaches it. -/
def CaseRun.firstImage? (runs : List CaseRun) (code : Nat) : Option Nat :=
  runs.findSome? (·.image? code)

/-- The lower-case form of a character on its own. -/
def lowerChar (c : Char) : List Char :=
  if c.toNat < 128 then [c.toLower]
  else if c.toNat = 0x130 then ['i', Char.ofNat 0x307]
  else match CaseRun.firstImage? lowerRuns c.toNat with
    | some code => [Char.ofNat code]
    | none => [c]

/-- The upper-case form of a character. -/
def upperChar (c : Char) : List Char :=
  if c.toNat < 128 then [c.toUpper]
  else match upperExpansions.lookup c.toNat with
    | some codes => codes.map Char.ofNat
    | none => match CaseRun.firstImage? upperRuns c.toNat with
      | some code => [Char.ofNat code]
      | none => [c]

/-- Whether the first character that does not belong to any word is one with a case. -/
def meetsCased (cs : List Char) : Bool :=
  match cs.dropWhile (CodeRange.covers caseIgnorableRanges) with
  | c :: _ => CodeRange.covers casedRanges c
  | [] => false

/-- The form of a capital sigma between the characters `before`, latest first, and `after`. -/
def lowerSigma (before after : List Char) : Char :=
  if meetsCased before && !meetsCased after then 'ς' else 'σ'

/-- The lower-case form of `cs` where the characters `before`, latest first, precede it. -/
def lowerAfter (before : List Char) : List Char → List Char
  | [] => []
  | c :: rest =>
    (if c = 'Σ' then [lowerSigma before rest] else lowerChar c) ++ lowerAfter (c :: before) rest

/-- The lower-case form of a text. -/
def lower (text : String) : String :=
  String.ofList (lowerAfter [] text.toList)

/-- The upper-case form of a text. -/
def upper (text : String) : String :=
  String.ofList (text.toList.flatMap upperChar)

end TextTemplate.Text
