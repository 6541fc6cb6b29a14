import TextTemplate.Expr.Parser
import TextTemplate.Proofs.Grammar.Phrase
import TextTemplate.Proofs.Grammar.Reading

/-!
# Recognizer

The grammar with phrases in place of pairs: each rule answers with what it recognises instead of the
pair that it leaves. A template is text in which `@` begins an expression, in parentheses, or bare as
a variable or a function call with what follows it without blanks. A doubled `@` stands for itself,
and so does one that begins nothing.
-/

namespace TextTemplate.Grammar

open TextTemplate.Grammar.Parser

/-! ## Names, literals and operators -/

/-- Reads a variable. -/
def atom : Parser Phrase :=
  rule .atom do
    let name ← ident
    return .atom name

/-- Reads the name of a function. -/
def functionName : Parser (List Char) :=
  rule .functionName ident

/-- Reads the name of a property. -/
def propertyName : Parser (List Char) :=
  rule .attributeKey ident

/-- Reads an integer. -/
def integer : Parser Phrase :=
  rule .integer do
    let lexeme ← lexeme do
      sign
      digits
    return .integer lexeme

/-- Reads a number with a point between digits. -/
def decimal : Parser Phrase :=
  rule .decimal do
    let lexeme ← lexeme do
      sign
      digits
      let _ ← char '.'
      digits
    return .decimal lexeme

/-- Reads a timestamp. -/
def timestamp : Parser Phrase :=
  rule .timestamp do
    let lexeme ← lexeme do
      date
      let _ ← char 'T'
      time
      optional offset
    return .timestamp lexeme

/-- Reads a truth value, which no name goes on behind. -/
def boolean : Parser Phrase :=
  rule .boolean do
    let value ← orElse
      (do
        word ['t', 'r', 'u', 'e']
        return true)
      (do
        word ['f', 'a', 'l', 's', 'e']
        return false)
    absent (satisfy continuesName)
    return .boolean value

/-- Reads what stands between the quotes of a string. -/
def stringContent : Parser (List Char) :=
  rule .stringContent do
    let parts ← many stringPart
    return parts.flatten

/-- Reads a string. -/
def string : Parser Phrase :=
  rule .string do
    let _ ← char '"'
    let content ← stringContent
    let _ ← char '"'
    return .string (unescaped content)

/-- Reads a literal that is not a string. -/
def scalar : Parser Phrase :=
  oneOf [timestamp, decimal, integer, boolean]

/-- Reads a literal. -/
def literal : Parser Phrase :=
  orElse string scalar

/-- Reads a capture. -/
def capture : Parser Phrase :=
  rule .capture do
    let whole ← lexeme do
      let _ ← char '&'
      rule .captureIndex digits
    return .capture { whole with text := whole.text.drop 1 }

/-- Reads an operator written with the given characters. -/
def operator (goal : Goal) (op : BinaryOp) (symbol : List Char) : Parser BinaryOp :=
  rule goal do
    chars symbol
    return op

/-- Reads a binary operator. Longer symbols come before their beginnings. -/
def binaryOp : Parser BinaryOp :=
  oneOf
    [operator .equal .eq ['=', '='],
      rule .notEqual do
        orElse (chars ['!', '=']) (chars ['<', '>'])
        return .ne,
      operator .atLeast .ge ['>', '='],
      operator .atMost .le ['<', '='],
      operator .greater .gt ['>'],
      operator .less .lt ['<'],
      operator .plus .add ['+'],
      operator .minus .sub ['-'],
      operator .times .mul ['*'],
      operator .divide .div ['/'],
      operator .power .pow ['^'],
      operator .concat .concat ['&']]

/-! ## Expressions -/

/-- Reads an expression in parentheses. -/
def grouped (inner : Parser Phrase) : Parser Phrase := do
  let _ ← char '('
  blanks
  let phrase ← inner
  blanks
  let _ ← char ')'
  return phrase

/-- Reads expressions with commas between them, if there are any. -/
def separated (inner : Parser Phrase) : Parser (List Phrase) := do
  let phrases ← optional do
    let first ← inner
    blanks
    let more ← manySpaced do
      let _ ← char ','
      blanks
      inner
    return first :: more
  return phrases.getD []

/-- Reads a list. -/
def list (inner : Parser Phrase) : Parser Phrase :=
  rule .list do
    let _ ← char '['
    blanks
    let items ← separated inner
    blanks
    let _ ← char ']'
    return .list items

/-- Reads the arguments of a function in parentheses. -/
def callArguments (inner : Parser Phrase) : Parser (List Phrase) :=
  rule .callArguments do
    let _ ← char '('
    blanks
    let args ← separated inner
    blanks
    let _ ← char ')'
    return args

/-- Reads a function with its arguments. -/
def functionCall (inner : Parser Phrase) : Parser Phrase :=
  rule .functionCall do
    let name ← functionName
    let args ← callArguments inner
    return .call name args

/-- Reads a lambda: an ampersand with an expression in parentheses or a list. -/
def lambda (inner : Parser Phrase) : Parser Phrase :=
  rule .lambda do
    let _ ← char '&'
    let body ← rule .lambdaBody (orElse (grouped inner) (list inner))
    return .lambda body

/-- Reads a bound of a range, given how to read a function call and a group. -/
def bound (call group : Parser Phrase) : Parser Phrase :=
  oneOf [integer, capture, call, atom, group]

/-- Reads a range. Its first bound may be one of the given call and group. -/
def range (inner call group : Parser Phrase) : Parser Phrase :=
  rule .range do
    let start ← bound call group
    blanks
    chars ['.', '.']
    blanks
    let stop ← bound (functionCall inner) (grouped inner)
    blanks
    let step ← optional do
      chars ['/', '/']
      blanks
      bound (functionCall inner) (grouped inner)
    return .range start stop step

/-- Reads an operand without what follows it. A call and a group are read once, whether they turn
out to begin a range or not. -/
def primary (inner : Parser Phrase) : Parser Phrase :=
  sharing (functionCall inner) fun call =>
    sharing (grouped inner) fun group =>
      oneOf [range inner call group, capture, lambda inner, list inner, group, literal, call, atom]

/-- What may follow an operand. -/
inductive Suffix where
  | property (key : List Char)
  | access (index : Phrase)

/-- The operand with what follows it. -/
def Suffix.attach (subject : Phrase) : Suffix → Phrase
  | .property key => .property subject key
  | .access index => .access subject index

/-- The literals of what follows an operand. -/
def Suffix.literals : Suffix → List (LiteralKind × Lexeme)
  | .property _ => []
  | .access index => index.literals

/-- The literals of an operand with what follows it are those of the operand and of what
follows. -/
theorem literals_attach_all (suffixes : List Suffix) (subject : Phrase) :
    (suffixes.foldl Suffix.attach subject).literals =
      subject.literals ++ suffixes.flatMap Suffix.literals := by
  induction suffixes generalizing subject with
  | nil => exact (List.append_nil _).symm
  | cons suffix suffixes ih =>
      have hattach : (suffix.attach subject).literals = subject.literals ++ suffix.literals := by
        cases suffix with
        | property key => exact (List.append_nil _).symm
        | access index => rfl
      rw [List.foldl_cons, ih, hattach, List.flatMap_cons, List.append_assoc]

/-- Reads a point with the name of a property. -/
def property : Parser Suffix :=
  rule .attributeOp do
    let _ ← char '.'
    let key ← propertyName
    return .property key

/-- Reads an index in brackets. -/
def index (inner : Parser Phrase) : Parser Suffix :=
  rule .indexOp do
    let _ ← char '['
    blanks
    let phrase ← inner
    blanks
    let _ ← char ']'
    return .access phrase

/-- Reads what may follow an operand. -/
def suffix (inner : Parser Phrase) : Parser Suffix :=
  orElse property (index inner)

/-- Reads an operand. -/
def operand (inner : Parser Phrase) : Parser Phrase := do
  let subject ← primary inner
  blanks
  let suffixes ← manySpaced (suffix inner)
  return suffixes.foldl Suffix.attach subject

/-- Reads an operator with its right operand. -/
def operation (inner : Parser Phrase) : Parser (BinaryOp × Phrase) := do
  let op ← binaryOp
  blanks
  let right ← operand inner
  return (op, right)

/-- Reads an expression in which `inner` reads the nested ones. -/
def expressionOver (inner : Parser Phrase) : Parser Phrase :=
  rule .expression do
    let first ← operand inner
    blanks
    let more ← manySpaced (operation inner)
    return .chain first more

/-- Reads an expression with at most `depth` levels of nesting. -/
def expressionWithin : Nat → Parser Phrase
  | 0 => fail
  | depth + 1 => fun c => expressionOver (expressionWithin depth) c

/-- Reads an expression. Each level of nesting takes a bracket, so that the bytes that are left
bound the depth. -/
def expression : Parser Phrase := fun c =>
  expressionWithin (c.bytesLeft + 1) c

/-! ## Templates -/

/-- What the grammar recognises in a template. -/
inductive Segment where
  | text (text : List Char)
  | expression (phrase : Phrase)

/-- The literals of a segment. -/
def Segment.literals : Segment → List (LiteralKind × Lexeme)
  | .text _ => []
  | .expression phrase => phrase.literals

/-- Reads a doubled `@`. -/
def escapedAt : Parser Segment :=
  rule .escapedAt do
    chars ['@', '@']
    return .text ['@']

/-- Reads an expression in parentheses behind an `@`. -/
def expressionBlock : Parser Segment :=
  rule .expressionBlock do
    chars ['@', '(']
    blanks
    let phrase ← expression
    blanks
    let _ ← char ')'
    return .expression phrase

/-- Reads a bare expression behind an `@`. -/
def bareExpression : Parser Segment :=
  rule .bareExpression do
    let _ ← char '@'
    let head ← orElse (functionCall expression) atom
    let suffixes ← many (suffix expression)
    return .expression (suffixes.foldl Suffix.attach head)

/-- Reads text up to the next `@`, or an `@` that stands for itself. -/
def plainText : Parser Segment :=
  rule .plainText do
    let text ← orElse
      (takeWhile1 (· != '@'))
      (do
        let c ← char '@'
        absent (char '(')
        return [c])
    return .text text

/-- Reads a segment of a template. -/
def segment : Parser Segment :=
  oneOf [escapedAt, expressionBlock, bareExpression, plainText]

/-- Succeeds at the end of the source, which is a goal of its own. -/
def theEnd : Parser Unit :=
  rule .endOfInput endOfInput

/-- Reads a whole template. -/
def wholeTemplate : Parser (List Segment) :=
  rule .template do
    let segments ← many segment
    theEnd
    return segments

/-- Reads a whole expression. -/
def wholeExpression : Parser Phrase :=
  rule .expressionInput do
    blanks
    let phrase ← expression
    blanks
    theEnd
    return phrase

/-- Reads a whole literal that is not a string. -/
def wholeLiteral : Parser Phrase :=
  rule .literalInput do
    let phrase ← scalar
    theEnd
    return phrase

/-! ## Trees of a source -/

/-- The tree of a phrase of the source. -/
def Phrase.read (source : String) (phrase : Phrase) : Except ParseError Expr :=
  match phrase.toExpr with
  | .ok expr => .ok expr
  | .error bad => .error (bad.toError source)

/-- The tree of a segment of the source. -/
def Segment.read (source : String) : Segment → Except ParseError Expr
  | .text chars => .ok (.text (String.ofList chars))
  | .expression phrase => phrase.read source

/-- The trees of segments of the source, in their order. -/
def Segment.readAll (source : String) : List Segment → Except ParseError (List Expr)
  | [] => .ok []
  | segment :: segments => do
    let expr ← segment.read source
    let exprs ← readAll source segments
    pure (expr :: exprs)

/-- The tree of a segment, unless one of its literals denotes no value. -/
def Segment.toExpr : Segment → Except BadLiteral Expr
  | .text chars => .ok (.text (String.ofList chars))
  | .expression phrase => phrase.toExpr

/-- The trees of segments in their order. -/
def Segment.allToExpr : List Segment → Except BadLiteral (List Expr)
  | [] => .ok []
  | segment :: segments => do
    let expr ← segment.toExpr
    let exprs ← allToExpr segments
    pure (expr :: exprs)

/-- The source only shows in the error of a literal. -/
theorem read_all_eq (source : String) (segments : List Segment) :
    Segment.readAll source segments = (Segment.allToExpr segments).mapError (·.toError source) := by
  induction segments with
  | nil => rfl
  | cons segment segments ih =>
      have hsegment : segment.read source = segment.toExpr.mapError (·.toError source) := by
        cases segment with
        | text chars => rfl
        | expression phrase =>
            rw [Segment.read, Phrase.read, Segment.toExpr]
            cases phrase.toExpr <;> rfl
      rw [Segment.readAll, Segment.allToExpr, hsegment, ih]
      cases segment.toExpr with
      | error bad => rfl
      | ok expr => cases Segment.allToExpr segments <;> rfl

/-- Segments are refused for a literal of one of their expressions. -/
theorem exists_phrase_of_all_to_expr {segments : List Segment} {bad : BadLiteral}
    (h : Segment.allToExpr segments = .error bad) :
    ∃ phrase, .expression phrase ∈ segments ∧ phrase.toExpr = .error bad := by
  induction segments with
  | nil => cases h
  | cons segment segments ih =>
      rw [Segment.allToExpr] at h
      obtain h | ⟨_, -, h⟩ := error_of_bind h
      · cases segment with
        | text chars => cases h
        | expression phrase => exact ⟨phrase, List.mem_cons_self, h⟩
      · obtain h | ⟨_, -, h⟩ := error_of_bind h
        · obtain ⟨phrase, hphrase, hbad⟩ := ih h
          exact ⟨phrase, List.mem_cons_of_mem _ hphrase, hbad⟩
        · cases h

end TextTemplate.Grammar
