import TextTemplate.Expr.Precedence
import TextTemplate.Grammar.Lexical
import TextTemplate.Grammar.Literal
import TextTemplate.Grammar.Pair

/-!
# Building trees

`buildExpr` makes the tree of an expression from the pairs that the grammar leaves. It takes the
pairs of a rule in their order and relies on the rule to have left them: a pair that is missing, or
of a rule that has no business where it stands, is an error of the kind `other`, as is an operator
that is out of place. Apart from these a literal may denote no value.
-/

namespace TextTemplate.Grammar

/-- The name of a rule, as messages about the rule itself give it. -/
def Goal.ruleName : Goal → String
  | endOfInput => "EOI"
  | template => "template"
  | expressionInput => "expression_input"
  | literalInput => "literal_input"
  | escapedAt => "escaped_at"
  | expressionBlock => "expression_block"
  | bareExpression => "bare_expression"
  | plainText => "text"
  | expression => "expression"
  | attributeOp => "attribute_op"
  | indexOp => "index_op"
  | equal => "eq"
  | notEqual => "neq"
  | atLeast => "ge"
  | atMost => "le"
  | greater => "gt"
  | less => "lt"
  | plus => "add"
  | minus => "sub"
  | times => "mul"
  | divide => "div"
  | power => "pow"
  | concat => "concat"
  | functionCall => "function_call"
  | callArguments => "call_args"
  | range => "range"
  | lambda => "lambda"
  | lambdaBody => "lambda_body"
  | capture => "capture"
  | list => "list"
  | atom => "atom"
  | functionName => "function_name"
  | attributeKey => "attribute_key"
  | captureIndex => "capture_index"
  | timestamp => "datetime"
  | decimal => "decimal"
  | integer => "integer"
  | boolean => "boolean"
  | string => "string"
  | stringContent => "string_content"

/-- The binary operator that a rule stands for. -/
def Goal.operator? : Goal → Option BinaryOp
  | equal => some .eq
  | notEqual => some .ne
  | atLeast => some .ge
  | atMost => some .le
  | greater => some .gt
  | less => some .lt
  | plus => some .add
  | minus => some .sub
  | times => some .mul
  | divide => some .div
  | power => some .pow
  | concat => some .concat
  | _ => none

/-- Whether a rule stands for what follows an operand. -/
def Goal.isPostfix : Goal → Bool
  | attributeOp | indexOp => true
  | _ => false

/-- Whether a rule stands for an operand, so that it may begin a chain of operands. -/
def Goal.isOperand (goal : Goal) : Bool :=
  goal.operator?.isNone && !goal.isPostfix

/-- Why no tree can be built from pairs. -/
inductive BuildError where
  | literal (bad : BadLiteral)
  /-- The pairs are not what the builder relies on. -/
  | other (message : String) (place : Lexeme)
deriving DecidableEq, Repr

namespace BuildError

/-- A rule has not left a pair that the builder takes. -/
def missing (place : Lexeme) : BuildError :=
  .other "missing expected pair in rule" place

/-- A pair has no business where it stands. -/
def unhandled (pair : Pair) : BuildError :=
  .other ("Unhandled rule: " ++ pair.goal.ruleName) pair.lexeme

/-- Operands and operators do not alternate. -/
def misplaced (place : Lexeme) : BuildError :=
  .other "operators and operands do not alternate" place

end BuildError

/-- The first of the pairs of a rule. -/
def Pair.first (place : Lexeme) : List Pair → Except BuildError Pair
  | [] => .error (.missing place)
  | pair :: _ => .ok pair

/-- The tree of a literal, if it denotes a value. -/
def checkedTree {α : Type} (kind : LiteralKind) (lexeme : Lexeme) (value : Option α)
    (tree : α → Expr) : Except BuildError Expr :=
  match value with
  | some value => .ok (tree value)
  | none => .error (.literal ⟨kind, lexeme⟩)

mutual
/-- The tree of an expression or of a part of one. -/
def buildExpr : Pair → Except BuildError Expr
  | .mk goal start stop inner =>
    let lexeme := Pair.stretch start stop
    match goal with
    | .expression =>
      match inner with
      | [] => .error (.misplaced lexeme)
      | first :: more =>
        if first.goal.isOperand then do
          let (operand, chain) ← buildChain (buildExpr first) more
          (Grouping.ofChain operand chain).readExpr
        else .error (.misplaced first.lexeme)
    | .atom => .ok (.atom (String.ofList lexeme.text))
    | .functionCall =>
      match inner with
      | [] | [_] => .error (.missing lexeme)
      | name :: .mk _ _ _ args :: _ => do
        let args ← buildAll args
        return .function (String.ofList name.lexeme.text) args
    | .list => do
      let items ← buildAll inner
      return .list items
    | .range =>
      match inner with
      | [] => .error (.missing lexeme)
      | [first] => do
        let _ ← buildExpr first
        throw (.missing lexeme)
      | [first, last] => do
        let first ← buildExpr first
        let last ← buildExpr last
        return .range first last none
      | first :: last :: step :: _ => do
        let first ← buildExpr first
        let last ← buildExpr last
        let step ← buildExpr step
        return .range first last (some step)
    | .lambda =>
      match inner with
      | [] | .mk _ _ _ [] :: _ => .error (.missing lexeme)
      | .mk _ _ _ (body :: _) :: _ => do
        let body ← buildExpr body
        return .lambda [body]
    | .capture =>
      match inner with
      | [] => .error (.missing lexeme)
      | index :: _ =>
        let index := { lexeme with text := index.lexeme.text }
        checkedTree .captureIndex index index.uint64? .capture
    | .integer => checkedTree .integer lexeme lexeme.int64? (.literal <| .int ·)
    | .decimal => checkedTree .decimal lexeme lexeme.float? (.literal <| .float ·)
    | .boolean => .ok (.literal (.bool (lexeme.text.map Char.toLower == ['t', 'r', 'u', 'e'])))
    | .timestamp => checkedTree .timestamp lexeme lexeme.timestamp? (.literal <| .dateTime ·)
    | .string =>
      match inner with
      | [] => .error (.missing lexeme)
      | content :: _ => .ok (.literal (.str (String.ofList (unescaped content.lexeme.text))))
    | _ => .error (.unhandled (.mk goal start stop inner))

/-- The trees of expressions in their order. -/
def buildAll : List Pair → Except BuildError (List Expr)
  | [] => .ok []
  | pair :: pairs => do
    let expr ← buildExpr pair
    let exprs ← buildAll pairs
    return expr :: exprs

/-- What follows the subject in an expression: the subject with the postfix operators behind it, and
the binary operators with the operands behind them. Operands that have no tree are kept as errors
until all of them are grouped. -/
def buildChain : Except BuildError Expr → List Pair →
    Except BuildError (Except BuildError Expr × List (BinaryOp × Except BuildError Expr))
  | subject, [] => .ok (subject, [])
  | subject, pair :: rest =>
    match pair.goal.operator?, rest with
    | some _, [] => .error (.misplaced pair.lexeme)
    | some op, next :: more =>
      if next.goal.isOperand then do
        let (operand, chain) ← buildChain (buildExpr next) more
        return (subject, (op, operand) :: chain)
      else .error (.misplaced next.lexeme)
    | none, rest =>
      if pair.goal.isPostfix then
        buildChain (subject >>= fun subject => buildPostfix subject pair) rest
      else .error (.misplaced pair.lexeme)

/-- The subject with a postfix operator behind it. -/
def buildPostfix : Expr → Pair → Except BuildError Expr
  | subject, .mk goal start stop inner =>
    match goal with
    | .attributeOp =>
      match inner with
      | [] => .error (.missing (Pair.stretch start stop))
      | key :: _ => .ok (.property subject (String.ofList key.lexeme.text))
    | .indexOp =>
      match inner with
      | [] => .error (.missing (Pair.stretch start stop))
      | index :: _ => do
        let index ← buildExpr index
        return .access subject index
    | _ => .error (.unhandled (.mk goal start stop inner))
end

/-- The subject with postfix operators behind it. -/
def buildPostfixes (subject : Expr) (pairs : List Pair) : Except BuildError Expr :=
  pairs.foldlM buildPostfix subject

/-- The segment of a template. -/
def buildSegment : Pair → Except BuildError Expr
  | .mk goal start stop inner =>
    let lexeme := Pair.stretch start stop
    match goal with
    | .plainText => .ok (.text (String.ofList lexeme.text))
    | .escapedAt => .ok (.text "@")
    | .expressionBlock =>
      match inner with
      | [] => .error (.missing lexeme)
      | expression :: _ => buildExpr expression
    | .bareExpression =>
      match inner with
      | [] => .error (.missing lexeme)
      | head :: suffixes => do
        let subject ← buildExpr head
        buildPostfixes subject suffixes
    | _ => .error (.unhandled (.mk goal start stop inner))

/-- The segments of a template up to its end. -/
def buildSegments : List Pair → Except BuildError (List Expr)
  | [] => .ok []
  | pair :: pairs =>
    if pair.goal = .endOfInput then buildSegments pairs
    else do
      let segment ← buildSegment pair
      let segments ← buildSegments pairs
      return segment :: segments

end TextTemplate.Grammar
