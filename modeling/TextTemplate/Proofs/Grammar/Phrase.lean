import TextTemplate.Expr.Precedence
import TextTemplate.Grammar.Literal

/-!
# Phrases

What the grammar recognises in an expression: literals still as they are written, and operands still
in a chain. `Phrase.toExpr` reads the literals and groups the operands. It fails at the first
literal, in the order of the source, that denotes no value.
-/

namespace TextTemplate.Grammar

/-- What the grammar recognises in an expression. -/
inductive Phrase where
  | integer (lexeme : Lexeme)
  | decimal (lexeme : Lexeme)
  | timestamp (lexeme : Lexeme)
  | boolean (value : Bool)
  /-- A string, with its escapes resolved. -/
  | string (text : List Char)
  | atom (name : List Char)
  | property (subject : Phrase) (key : List Char)
  | access (subject index : Phrase)
  | call (name : List Char) (args : List Phrase)
  | lambda (body : Phrase)
  /-- A capture; the text is that of the index, the place that of the whole. -/
  | capture (lexeme : Lexeme)
  | range (start stop : Phrase) (step : Option Phrase)
  | list (items : List Phrase)
  | chain (first : Phrase) (more : List (BinaryOp × Phrase))

namespace Phrase

/-- The tree of a literal, if it denotes a value. -/
def checked {α : Type} (kind : LiteralKind) (lexeme : Lexeme) (value : Option α)
    (tree : α → Expr) : Except BadLiteral Expr :=
  match value with
  | some value => .ok (tree value)
  | none => .error ⟨kind, lexeme⟩

mutual
/-- The tree of a phrase, unless one of its literals denotes no value. -/
def toExpr : Phrase → Except BadLiteral Expr
  | integer lexeme => checked .integer lexeme lexeme.int64? (.literal <| .int ·)
  | decimal lexeme => checked .decimal lexeme lexeme.float? (.literal <| .float ·)
  | timestamp lexeme => checked .timestamp lexeme lexeme.timestamp? (.literal <| .dateTime ·)
  | boolean value => .ok (.literal (.bool value))
  | string text => .ok (.literal (.str (String.ofList text)))
  | atom name => .ok (.atom (String.ofList name))
  | property subject key => do
    let subject ← subject.toExpr
    pure (.property subject (String.ofList key))
  | access subject index => do
    let subject ← subject.toExpr
    let index ← index.toExpr
    pure (.access subject index)
  | call name args => do
    let args ← allToExpr args
    pure (.function (String.ofList name) args)
  | lambda body => do
    let body ← body.toExpr
    pure (.lambda [body])
  | capture lexeme => checked .captureIndex lexeme lexeme.uint64? .capture
  | range start stop step => do
    let start ← start.toExpr
    let stop ← stop.toExpr
    let step ← stepToExpr step
    pure (.range start stop step)
  | list items => do
    let items ← allToExpr items
    pure (.list items)
  | chain first more => do
    let first ← first.toExpr
    let more ← chainToExpr more
    pure (.ofChain first more)

/-- The trees of phrases in their order. -/
def allToExpr : List Phrase → Except BadLiteral (List Expr)
  | [] => .ok []
  | phrase :: phrases => do
    let expr ← phrase.toExpr
    let exprs ← allToExpr phrases
    pure (expr :: exprs)

/-- The tree of the step of a range, if it has one. -/
def stepToExpr : Option Phrase → Except BadLiteral (Option Expr)
  | none => .ok none
  | some phrase => do
    let expr ← phrase.toExpr
    pure (some expr)

/-- The trees of the operands behind operators. -/
def chainToExpr : List (BinaryOp × Phrase) → Except BadLiteral (List (BinaryOp × Expr))
  | [] => .ok []
  | (op, phrase) :: more => do
    let expr ← phrase.toExpr
    let exprs ← chainToExpr more
    pure ((op, expr) :: exprs)
end

mutual
/-- The literals of a phrase that may denote no value, in the order of the source. -/
def literals : Phrase → List (LiteralKind × Lexeme)
  | integer lexeme => [(.integer, lexeme)]
  | decimal lexeme => [(.decimal, lexeme)]
  | timestamp lexeme => [(.timestamp, lexeme)]
  | boolean _ | string _ | atom _ => []
  | property subject _ => subject.literals
  | access subject index => subject.literals ++ index.literals
  | call _ args => literalsOfAll args
  | lambda body => body.literals
  | capture lexeme => [(.captureIndex, lexeme)]
  | range start stop step => start.literals ++ (stop.literals ++ literalsOfStep step)
  | list items => literalsOfAll items
  | chain first more => first.literals ++ literalsOfChain more

/-- The literals of phrases. -/
def literalsOfAll : List Phrase → List (LiteralKind × Lexeme)
  | [] => []
  | phrase :: phrases => phrase.literals ++ literalsOfAll phrases

/-- The literals of the step of a range. -/
def literalsOfStep : Option Phrase → List (LiteralKind × Lexeme)
  | none => []
  | some phrase => phrase.literals

/-- The literals of the operands behind operators. -/
def literalsOfChain : List (BinaryOp × Phrase) → List (LiteralKind × Lexeme)
  | [] => []
  | (_, phrase) :: more => phrase.literals ++ literalsOfChain more
end

end Phrase

/-! ## Computations that may fail -/

section

variable {ε ε' α β : Type} {f : ε → ε'}

/-- The failure of a computation is the failure of one of its parts. -/
theorem map_error_bind (first : Except ε α) (next : α → Except ε β) :
    (first >>= next).mapError f = first.mapError f >>= fun value => (next value).mapError f := by
  cases first <;> rfl

theorem map_error_pure (value : α) : (pure value : Except ε α).mapError f = pure value :=
  rfl

/-- A computation that answers does so after its first part has answered. -/
theorem ok_of_bind {first : Except ε α} {next : α → Except ε β} {result : β}
    (h : first >>= next = .ok result) : ∃ value, first = .ok value ∧ next value = .ok result := by
  cases first with
  | ok value => exact ⟨value, rfl, h⟩
  | error reason => cases h

/-- The first of two computations fails, or else the second one does. -/
theorem error_of_bind {first : Except ε α} {next : α → Except ε β} {reason : ε}
    (h : first >>= next = .error reason) :
    first = .error reason ∨ ∃ value, first = .ok value ∧ next value = .error reason := by
  cases first with
  | ok value => exact .inr ⟨value, rfl, h⟩
  | error other => exact .inl (congrArg _ (Except.error.inj h))

end

end TextTemplate.Grammar
