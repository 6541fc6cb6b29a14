/-!
# Goals of the grammar

The rules of the grammar that a reader of error messages can be told about. Each belongs to a
concept, which is the word that messages use for it.
-/

namespace TextTemplate.Grammar

/-- What a rule of the grammar looks for. -/
inductive Goal where
  | endOfInput
  | template
  | expressionInput
  | literalInput
  | escapedAt
  | expressionBlock
  | bareExpression
  | plainText
  | expression
  | attributeOp
  | indexOp
  | equal
  | notEqual
  | atLeast
  | atMost
  | greater
  | less
  | plus
  | minus
  | times
  | divide
  | power
  | concat
  | functionCall
  | callArguments
  | range
  | lambda
  | lambdaBody
  | capture
  | list
  | atom
  | functionName
  | attributeKey
  | captureIndex
  | timestamp
  | decimal
  | integer
  | boolean
  | string
  | stringContent
deriving DecidableEq, Repr

/-- All goals, in the order in which messages mention them. -/
def Goal.all : List Goal :=
  [.endOfInput, .template, .expressionInput, .literalInput, .escapedAt, .expressionBlock,
    .bareExpression, .plainText, .expression, .attributeOp, .indexOp, .equal, .notEqual, .atLeast,
    .atMost, .greater, .less, .plus, .minus, .times, .divide, .power, .concat, .functionCall,
    .callArguments, .range, .lambda, .lambdaBody, .capture, .list, .atom, .functionName,
    .attributeKey, .captureIndex, .timestamp, .decimal, .integer, .boolean, .string,
    .stringContent]

/-- The word for a goal in messages. -/
def Goal.concept : Goal → String
  | .integer | .decimal | .boolean | .string | .timestamp => "literal"
  | .atom | .functionName | .attributeKey => "identifier"
  | .captureIndex => "capture index"
  | .equal | .notEqual | .atLeast | .atMost | .greater | .less | .plus | .minus | .times | .divide
  | .power | .concat => "operator"
  | .endOfInput => "end of input"
  | _ => "expression"

/-- Joins alternatives: commas between them and `or` before the last. -/
def alternatives : List String → String
  | [] => "something else"
  | [only] => only
  | [first, last] => first ++ " or " ++ last
  | first :: second :: more => first ++ ", " ++ alternatives (second :: more)

/-- The words for the goals, each once and in the order of the grammar. -/
def Goal.concepts (goals : List Goal) : List String :=
  ((Goal.all.filter (goals.contains ·)).map Goal.concept).eraseDups

/-- What a message says was expected. -/
def Goal.describe (goals : List Goal) : String :=
  alternatives (Goal.concepts goals)

end TextTemplate.Grammar
