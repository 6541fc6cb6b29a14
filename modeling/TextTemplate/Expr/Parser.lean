import TextTemplate.Expr.Builder
import TextTemplate.Expr.ParseError
import TextTemplate.Grammar.Rules

/-!
# Parsing

`Template.parse`, `Expr.parse` and `Literal.parse` read a whole source. A source that the grammar
does not admit is reported at the furthest place that any rule reached, with what was expected
there; otherwise the first literal that denotes no value is reported.
-/

namespace TextTemplate

namespace Grammar

/-- What stands where `bytesLeft` bytes of the source are left. -/
def foundAt (source : List Char) (bytesLeft : Nat) : String :=
  match dropBytes (byteCount source - bytesLeft) source with
  | c :: _ => String.ofList ['\'', c, '\'']
  | [] => "end of input"

/-- The error of a source that the grammar does not admit. -/
def Attempts.toError (source : String) (attempts : Option Attempts) : ParseError :=
  let chars := source.toList
  let (bytesLeft, goals) := match attempts with
    | some ⟨bytesLeft, goals⟩ => (bytesLeft, goals)
    | none => (byteCount chars, [])
  let place := byteCount chars - bytesLeft
  ⟨.unexpectedToken (Goal.describe goals) (foundAt chars bytesLeft), source, ⟨place, place⟩⟩

/-- The stretch of the source that a lexeme takes. -/
def Lexeme.span (source : String) (lexeme : Lexeme) : Span :=
  let total := byteCount source.toList
  ⟨total - lexeme.bytesLeft, total - lexeme.bytesAfter⟩

/-- The error of a literal that denotes no value. -/
def BadLiteral.toError (source : String) (bad : BadLiteral) : ParseError :=
  ⟨.invalidLiteral bad.kind (String.ofList bad.lexeme.text), source, bad.lexeme.span source⟩

/-- Reads a whole source by the grammar. -/
def Parser.run {α : Type} (p : Parser α) (source : String) : Except ParseError α :=
  match p (.ofChars source.toList) with
  | ⟨some (value, _), _⟩ => .ok value
  | ⟨none, attempts⟩ => .error (Attempts.toError source attempts)

/-- The error of pairs from which no tree is built. -/
def BuildError.toError (source : String) : BuildError → ParseError
  | .literal bad => bad.toError source
  | .other message place => ⟨.other message, source, place.span source⟩

/-- The stretch that takes the whole source. -/
def Lexeme.whole (source : String) : Lexeme :=
  ⟨source.toList, byteCount source.toList, 0⟩

/-- Reads a whole source by a rule, and builds something from the pair of the rule. -/
def readWhole {α : Type} (goal : Parser (List Pair)) (build : Pair → Except BuildError α)
    (source : String) : Except ParseError α := do
  let pairs ← goal.run source
  let result := do
    let pair ← Pair.first (.whole source) pairs
    build pair
  result.mapError (·.toError source)

/-- The tree of the only expression that a rule holds. -/
def buildInput (source : String) (input : Pair) : Except BuildError Expr := do
  let pair ← Pair.first (.whole source) input.inner
  buildExpr pair

end Grammar

/-- Puts a segment in front of others; text is joined with text that follows it. -/
def Template.cons : Expr → Template → Template
  | .text first, .text second :: rest => .text (first ++ second) :: rest
  | expr, rest => expr :: rest

/-- Joins adjacent stretches of text. -/
def Template.join (segments : List Expr) : Template :=
  segments.foldr Template.cons []

/-- Parses a template. -/
def Template.parse (source : String) : Except ParseError Template := do
  let segments ← Grammar.readWhole Grammar.Rules.wholeTemplate
    (fun template => Grammar.buildSegments template.inner) source
  pure (Template.join segments)

/-- Parses a single expression, written without the leading `@`. -/
def Expr.parse (source : String) : Except ParseError Expr :=
  Grammar.readWhole Grammar.Rules.wholeExpression (Grammar.buildInput source) source

/-- The value of a tree that is a literal. -/
def Expr.literalValue (source : String) : Expr → Except ParseError Literal
  | .literal value => .ok value
  | _ =>
    .error ⟨.other "the source is no literal", source, (Grammar.Lexeme.whole source).span source⟩

/-- Parses a literal that is not a string, and that takes the whole source. -/
def Literal.parse (source : String) : Except ParseError Literal := do
  let expr ← Grammar.readWhole Grammar.Rules.wholeLiteral (Grammar.buildInput source) source
  expr.literalValue source

end TextTemplate
