import TextTemplate.Proofs.Grammar.Recognizer

/-!
# Phrases further from the end

Lexemes are located by the bytes that are left behind them. When more characters stand behind a
phrase, it is the same phrase with all its lexemes moved (`Phrase.moved`): it has the same tree, or
is refused for the same literal, further from the end (`Phrase.to_expr_moved`).
-/

namespace TextTemplate.Grammar

/-- The lexeme with `count` more bytes behind it. -/
def Lexeme.moved (count : Nat) (lexeme : Lexeme) : Lexeme :=
  ⟨lexeme.text, lexeme.bytesLeft + count, lexeme.bytesAfter + count⟩

/-- The bad literal with `count` more bytes behind it. -/
def BadLiteral.moved (count : Nat) (bad : BadLiteral) : BadLiteral :=
  ⟨bad.kind, bad.lexeme.moved count⟩

namespace Phrase

mutual
/-- The phrase with `count` more bytes behind it. -/
def moved (count : Nat) : Phrase → Phrase
  | integer lexeme => integer (lexeme.moved count)
  | decimal lexeme => decimal (lexeme.moved count)
  | timestamp lexeme => timestamp (lexeme.moved count)
  | boolean value => boolean value
  | string text => string text
  | atom name => atom name
  | property subject key => property (subject.moved count) key
  | access subject index => access (subject.moved count) (index.moved count)
  | call name args => call name (movedAll count args)
  | lambda body => lambda (body.moved count)
  | capture lexeme => capture (lexeme.moved count)
  | range start stop step => range (start.moved count) (stop.moved count) (movedStep count step)
  | list items => list (movedAll count items)
  | chain first more => chain (first.moved count) (movedChain count more)

/-- The phrases with `count` more bytes behind them. -/
def movedAll (count : Nat) : List Phrase → List Phrase
  | [] => []
  | phrase :: phrases => phrase.moved count :: movedAll count phrases

/-- The step of a range with `count` more bytes behind it. -/
def movedStep (count : Nat) : Option Phrase → Option Phrase
  | none => none
  | some phrase => some (phrase.moved count)

/-- The operands behind operators with `count` more bytes behind them. -/
def movedChain (count : Nat) : List (BinaryOp × Phrase) → List (BinaryOp × Phrase)
  | [] => []
  | (op, phrase) :: more => (op, phrase.moved count) :: movedChain count more
end

variable {count : Nat}

theorem moved_all_eq (phrases : List Phrase) :
    movedAll count phrases = phrases.map (moved count) := by
  induction phrases with
  | nil => rfl
  | cons phrase phrases ih => rw [movedAll, ih, List.map_cons]

theorem moved_step_eq (step : Option Phrase) : movedStep count step = step.map (moved count) := by
  cases step <;> rfl

theorem moved_chain_eq (more : List (BinaryOp × Phrase)) :
    movedChain count more = more.map (Prod.map id (moved count)) := by
  induction more with
  | nil => rfl
  | cons next more ih => rw [movedChain, ih, List.map_cons, Prod.map, id]

/-! ## Trees -/

/-- A literal is checked by its text alone. -/
theorem checked_moved {α : Type} (kind : LiteralKind) (lexeme : Lexeme) (value : Option α)
    (tree : α → Expr) : checked kind (lexeme.moved count) value tree =
      (checked kind lexeme value tree).mapError (BadLiteral.moved count) := by
  cases value <;> rfl

mutual
/-- A phrase that is moved has the same tree, or is refused for the same literal. -/
theorem to_expr_moved : (phrase : Phrase) →
    (phrase.moved count).toExpr = phrase.toExpr.mapError (BadLiteral.moved count)
  | .integer _ | .decimal _ | .timestamp _ | .capture _ => checked_moved _ _ _ _
  | .boolean _ | .string _ | .atom _ => rfl
  | .property subject _ => by
      rw [moved, toExpr, toExpr, to_expr_moved subject, map_error_bind]
      rfl
  | .access subject index => by
      rw [moved, toExpr, toExpr, to_expr_moved subject, to_expr_moved index]
      simp only [map_error_bind, map_error_pure]
  | .call _ args => by
      rw [moved, toExpr, toExpr, all_to_expr_moved args, map_error_bind]
      rfl
  | .lambda body => by
      rw [moved, toExpr, toExpr, to_expr_moved body, map_error_bind]
      rfl
  | .range start stop step => by
      rw [moved, toExpr, toExpr, to_expr_moved start, to_expr_moved stop, step_to_expr_moved step]
      simp only [map_error_bind, map_error_pure]
  | .list items => by
      rw [moved, toExpr, toExpr, all_to_expr_moved items, map_error_bind]
      rfl
  | .chain first more => by
      rw [moved, toExpr, toExpr, to_expr_moved first, chain_to_expr_moved more]
      simp only [map_error_bind, map_error_pure]

/-- Phrases that are moved have the same trees, or are refused for the same literal. -/
theorem all_to_expr_moved : (phrases : List Phrase) →
    allToExpr (movedAll count phrases) =
      (allToExpr phrases).mapError (BadLiteral.moved count)
  | [] => rfl
  | phrase :: phrases => by
      rw [movedAll, allToExpr, allToExpr, to_expr_moved phrase, all_to_expr_moved phrases]
      simp only [map_error_bind, map_error_pure]

/-- A step that is moved has the same tree, or is refused for the same literal. -/
theorem step_to_expr_moved : (step : Option Phrase) →
    stepToExpr (movedStep count step) = (stepToExpr step).mapError (BadLiteral.moved count)
  | none => rfl
  | some phrase => by
      rw [movedStep, stepToExpr, stepToExpr, to_expr_moved phrase, map_error_bind]
      rfl

/-- Operands that are moved have the same trees, or are refused for the same literal. -/
theorem chain_to_expr_moved : (more : List (BinaryOp × Phrase)) →
    chainToExpr (movedChain count more) =
      (chainToExpr more).mapError (BadLiteral.moved count)
  | [] => rfl
  | (_, phrase) :: more => by
      rw [movedChain, chainToExpr, chainToExpr, to_expr_moved phrase, chain_to_expr_moved more]
      simp only [map_error_bind, map_error_pure]
end

end Phrase

/-- What follows an operand, with `count` more bytes behind it. -/
def Suffix.moved (count : Nat) : Suffix → Suffix
  | .property key => .property key
  | .access index => .access (index.moved count)

/-- An operand is moved with what follows it. -/
theorem attach_all_moved (count : Nat) (suffixes : List Suffix) (subject : Phrase) :
    (suffixes.map (Suffix.moved count)).foldl Suffix.attach (subject.moved count) =
      (suffixes.foldl Suffix.attach subject).moved count := by
  induction suffixes generalizing subject with
  | nil => rfl
  | cons suffix suffixes ih =>
      have hattach : (suffix.moved count).attach (subject.moved count) =
          (suffix.attach subject).moved count := by
        cases suffix <;> rfl
      rw [List.map_cons, List.foldl_cons, List.foldl_cons, hattach, ih]

end TextTemplate.Grammar
