import TextTemplate.Grammar.Lexical
import TextTemplate.Grammar.Pair

/-!
# Rules of the grammar

The grammar of templates, with the pairs that each rule leaves. Parentheses, blanks and the choice
between alternatives leave none. Blanks may stand between any two parts of an expression, but not
within names, literals and operators, nor between a function and its arguments, nor behind the sign
of a lambda or a capture. The rules of one level of nesting take the rule for the expressions in it
as a parameter, and `Rules.expression` ties the levels together.
-/

namespace TextTemplate.Grammar.Rules

open TextTemplate.Grammar.Parser

/-! ## Names, literals and operators -/

/-- A variable. -/
def atom : Parser (List Pair) :=
  token .atom ident

/-- The name of a function. -/
def functionName : Parser (List Pair) :=
  token .functionName ident

/-- The name of a property. -/
def attributeKey : Parser (List Pair) :=
  token .attributeKey ident

/-- The index of a capture. -/
def captureIndex : Parser (List Pair) :=
  token .captureIndex digits

/-- An integer, which may have a minus sign. -/
def integer : Parser (List Pair) :=
  token .integer do
    sign
    digits

/-- A decimal with digits on both sides of its point. -/
def decimal : Parser (List Pair) :=
  token .decimal do
    sign
    digits
    let _ ← char '.'
    digits

/-- A timestamp with a date, `T`, a time, and perhaps an offset. -/
def timestamp : Parser (List Pair) :=
  token .timestamp do
    date
    let _ ← char 'T'
    time
    optional offset

/-- A truth value, which no name goes on behind. -/
def boolean : Parser (List Pair) :=
  token .boolean do
    orElse (word ['t', 'r', 'u', 'e']) (word ['f', 'a', 'l', 's', 'e'])
    absent (satisfy continuesName)

/-- What stands between the quotes of a string, with its escapes. -/
def stringContent : Parser (List Pair) :=
  token .stringContent (many stringPart)

/-- A string, which holds its content. -/
def string : Parser (List Pair) :=
  pair .string do
    let _ ← char '"'
    let content ← stringContent
    let _ ← char '"'
    return content

/-- A literal that is not a string. -/
def scalar : Parser (List Pair) :=
  oneOf [timestamp, decimal, integer, boolean]

/-- A literal. -/
def literal : Parser (List Pair) :=
  orElse string scalar

/-- A capture, which holds its index. -/
def capture : Parser (List Pair) :=
  pair .capture do
    let _ ← char '&'
    captureIndex

/-- A binary operator. Longer symbols come before their beginnings. -/
def infixOp : Parser (List Pair) :=
  oneOf
    [token .equal (chars ['=', '=']),
      token .notEqual (orElse (chars ['!', '=']) (chars ['<', '>'])),
      token .atLeast (chars ['>', '=']),
      token .atMost (chars ['<', '=']),
      token .greater (chars ['>']),
      token .less (chars ['<']),
      token .plus (chars ['+']),
      token .minus (chars ['-']),
      token .times (chars ['*']),
      token .divide (chars ['/']),
      token .power (chars ['^']),
      token .concat (chars ['&'])]

/-! ## Expressions -/

/-- An expression in parentheses, which leaves the pair of the expression alone. -/
def grouped (inner : Parser (List Pair)) : Parser (List Pair) := do
  let _ ← char '('
  blanks
  let expression ← inner
  blanks
  let _ ← char ')'
  return expression

/-- Expressions with commas between them, if there are any. -/
def separated (inner : Parser (List Pair)) : Parser (List Pair) := do
  let expressions ← optional do
    let first ← inner
    blanks
    let more ← manySpaced do
      let _ ← char ','
      blanks
      inner
    return first ++ more.flatten
  return expressions.getD []

/-- A list, which holds its items. -/
def list (inner : Parser (List Pair)) : Parser (List Pair) :=
  pair .list do
    let _ ← char '['
    blanks
    let items ← separated inner
    blanks
    let _ ← char ']'
    return items

/-- The arguments of a function call in parentheses. -/
def callArguments (inner : Parser (List Pair)) : Parser (List Pair) :=
  pair .callArguments do
    let _ ← char '('
    blanks
    let args ← separated inner
    blanks
    let _ ← char ')'
    return args

/-- A function call, which holds its name and its arguments. -/
def functionCall (inner : Parser (List Pair)) : Parser (List Pair) :=
  pair .functionCall do
    let name ← functionName
    let args ← callArguments inner
    return name ++ args

/-- The body of a lambda, an expression in parentheses or a list. -/
def lambdaBody (inner : Parser (List Pair)) : Parser (List Pair) :=
  pair .lambdaBody (orElse (grouped inner) (list inner))

/-- A lambda, which holds its body. -/
def lambda (inner : Parser (List Pair)) : Parser (List Pair) :=
  pair .lambda do
    let _ ← char '&'
    lambdaBody inner

/-- A bound of a range, given the rules for a function call and a group. -/
def bound (call group : Parser (List Pair)) : Parser (List Pair) :=
  oneOf [integer, capture, call, atom, group]

/-- A range, which holds two bounds and perhaps a step. Its first bound may be one of the given call
and group. -/
def range (inner call group : Parser (List Pair)) : Parser (List Pair) :=
  pair .range do
    let start ← bound call group
    blanks
    chars ['.', '.']
    blanks
    let stop ← bound (functionCall inner) (grouped inner)
    blanks
    let step ← optional do
      chars ['/', '/']
      blanks
      bound (functionCall inner) (grouped inner)
    return start ++ (stop ++ step.getD [])

/-- An operand without what follows it. A call and a group are read once, whether they turn out to
begin a range or not. -/
def primary (inner : Parser (List Pair)) : Parser (List Pair) :=
  sharing (functionCall inner) fun call =>
    sharing (grouped inner) fun group =>
      oneOf [range inner call group, capture, lambda inner, list inner, group, literal, call, atom]

/-- A point with the name of a property. -/
def attributeOp : Parser (List Pair) :=
  pair .attributeOp do
    let _ ← char '.'
    attributeKey

/-- An index in brackets. -/
def indexOp (inner : Parser (List Pair)) : Parser (List Pair) :=
  pair .indexOp do
    let _ ← char '['
    blanks
    let expression ← inner
    blanks
    let _ ← char ']'
    return expression

/-- A property or an index behind an operand. -/
def postfixOp (inner : Parser (List Pair)) : Parser (List Pair) :=
  orElse attributeOp (indexOp inner)

/-- An operand with what follows it. -/
def operand (inner : Parser (List Pair)) : Parser (List Pair) := do
  let subject ← primary inner
  blanks
  let suffixes ← manySpaced (postfixOp inner)
  return subject ++ suffixes.flatten

/-- An operator with its right operand. -/
def operation (inner : Parser (List Pair)) : Parser (List Pair) := do
  let op ← infixOp
  blanks
  let right ← operand inner
  return op ++ right

/-- An expression, which holds operands and operators side by side. -/
def expressionOver (inner : Parser (List Pair)) : Parser (List Pair) :=
  pair .expression do
    let first ← operand inner
    blanks
    let more ← manySpaced (operation inner)
    return first ++ more.flatten

/-- An expression with at most `depth` levels of nesting. -/
def expressionWithin : Nat → Parser (List Pair)
  | 0 => fail
  | depth + 1 => fun c => expressionOver (expressionWithin depth) c

/-- An expression. Each level of nesting takes a bracket, so that the bytes that are left bound the
depth. -/
def expression : Parser (List Pair) := fun c =>
  expressionWithin (c.bytesLeft + 1) c

/-! ## Templates -/

/-- A doubled `@`. -/
def escapedAt : Parser (List Pair) :=
  token .escapedAt (chars ['@', '@'])

/-- An expression in parentheses behind an `@`. -/
def expressionBlock : Parser (List Pair) :=
  pair .expressionBlock do
    chars ['@', '(']
    blanks
    let expression ← expression
    blanks
    let _ ← char ')'
    return expression

/-- A variable or a function call behind an `@`, with what follows it without blanks. -/
def bareExpression : Parser (List Pair) :=
  pair .bareExpression do
    let _ ← char '@'
    let head ← orElse (functionCall expression) atom
    let suffixes ← many (postfixOp expression)
    return head ++ suffixes.flatten

/-- Text up to the next `@`, or an `@` that stands for itself. -/
def plainText : Parser (List Pair) :=
  token .plainText do
    orElse
      (takeWhile1 (· != '@'))
      (do
        let c ← char '@'
        absent (char '(')
        return [c])

/-- A segment of a template. -/
def segment : Parser (List Pair) :=
  oneOf [escapedAt, expressionBlock, bareExpression, plainText]

/-- The end of the source, which leaves a pair as well. -/
def theEnd : Parser (List Pair) :=
  token .endOfInput endOfInput

/-- A whole template. -/
def wholeTemplate : Parser (List Pair) :=
  pair .template do
    let segments ← many segment
    let last ← theEnd
    return segments.flatten ++ last

/-- A whole expression. -/
def wholeExpression : Parser (List Pair) :=
  pair .expressionInput do
    blanks
    let expression ← expression
    blanks
    let last ← theEnd
    return expression ++ last

/-- A whole literal that is not a string. -/
def wholeLiteral : Parser (List Pair) :=
  pair .literalInput do
    let literal ← scalar
    let last ← theEnd
    return literal ++ last

end TextTemplate.Grammar.Rules
