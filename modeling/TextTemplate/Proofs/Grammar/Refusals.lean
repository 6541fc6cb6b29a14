import TextTemplate.Proofs.Grammar.Phrase

/-!
# Refused literals

A phrase has no tree exactly if the builder finds no value for one of its literals. The literal that
it is then refused for is the first such literal in the order of the source
(`Phrase.refusal?_to_expr`).
-/

namespace TextTemplate.Grammar

/-- Whether the builder finds a value for the lexeme as a literal of the kind. -/
def LiteralKind.isConverted (kind : LiteralKind) (lexeme : Lexeme) : Bool :=
  match kind with
  | integer => lexeme.int64?.isSome
  | decimal => lexeme.float?.isSome
  | timestamp => lexeme.timestamp?.isSome
  | captureIndex => lexeme.uint64?.isSome

/-- The literal as a bad one, if no value is found for it. -/
def BadLiteral.of? (literal : LiteralKind × Lexeme) : Option BadLiteral :=
  if literal.1.isConverted literal.2 then none else some ⟨literal.1, literal.2⟩

/-- For a bad literal no value is found. -/
theorem BadLiteral.of?_eq_some {literal : LiteralKind × Lexeme} {bad : BadLiteral}
    (h : BadLiteral.of? literal = some bad) :
    literal = (bad.kind, bad.lexeme) ∧ bad.kind.isConverted bad.lexeme = false := by
  rw [BadLiteral.of?] at h
  split at h
  · cases h
  · next hnone =>
      obtain rfl := Option.some.inj h
      exact ⟨rfl, Bool.eq_false_iff.mpr hnone⟩

namespace Phrase

variable {α β : Type}

/-- The literal for which a computation fails. -/
def refusal? : Except BadLiteral α → Option BadLiteral
  | .ok _ => none
  | .error bad => some bad

/-- A computation fails for the literal for which its first part fails, or else for the one for
which the rest fails. -/
theorem refusal?_bind {first : Except BadLiteral α} {next : α → Except BadLiteral β}
    {later : Option BadLiteral} (h : ∀ value, refusal? (next value) = later) :
    refusal? (first >>= next) = (refusal? first).or later := by
  cases first with
  | ok value => exact h value
  | error bad => rfl

/-- A computation whose last step cannot fail fails where what comes before does. -/
theorem refusal?_bind_pure (first : Except BadLiteral α) (f : α → β) :
    refusal? (first >>= fun value => pure (f value)) = refusal? first := by
  cases first <;> rfl

/-- A literal is refused if no value is found for it. -/
theorem refusal?_checked {kind : LiteralKind} {lexeme : Lexeme} {value : Option α} {tree : α → Expr}
    (h : kind.isConverted lexeme = value.isSome) :
    refusal? (checked kind lexeme value tree) =
      [(kind, lexeme)].findSome? BadLiteral.of? := by
  rw [List.findSome?_singleton, BadLiteral.of?]
  dsimp only
  rw [h]
  cases value <;> rfl

mutual
/-- A phrase is refused for the first of its literals that has no value. -/
theorem refusal?_to_expr : (phrase : Phrase) →
    refusal? phrase.toExpr = phrase.literals.findSome? BadLiteral.of?
  | .integer _ | .decimal _ | .timestamp _ | .capture _ => refusal?_checked rfl
  | .boolean _ | .string _ | .atom _ => rfl
  | .property subject _ => by
      rw [toExpr, literals, refusal?_bind_pure]
      exact refusal?_to_expr subject
  | .access subject index => by
      rw [toExpr, literals, refusal?_bind fun _ => refusal?_bind_pure _ _, List.findSome?_append,
        refusal?_to_expr subject, refusal?_to_expr index]
  | .call _ args => by
      rw [toExpr, literals, refusal?_bind_pure]
      exact refusal?_all_to_expr args
  | .lambda body => by
      rw [toExpr, literals, refusal?_bind_pure]
      exact refusal?_to_expr body
  | .range start stop step => by
      rw [toExpr, literals, refusal?_bind fun _ => refusal?_bind fun _ => refusal?_bind_pure _ _,
        List.findSome?_append, List.findSome?_append, refusal?_to_expr start,
        refusal?_to_expr stop, refusal?_step_to_expr step]
  | .list items => by
      rw [toExpr, literals, refusal?_bind_pure]
      exact refusal?_all_to_expr items
  | .chain first more => by
      rw [toExpr, literals, refusal?_bind fun _ => refusal?_bind_pure _ _, List.findSome?_append,
        refusal?_to_expr first, refusal?_chain_to_expr more]

/-- Phrases are refused for the first of their literals that has no value. -/
theorem refusal?_all_to_expr : (phrases : List Phrase) →
    refusal? (allToExpr phrases) = (literalsOfAll phrases).findSome? BadLiteral.of?
  | [] => rfl
  | phrase :: phrases => by
      rw [allToExpr, literalsOfAll, refusal?_bind fun _ => refusal?_bind_pure _ _,
        List.findSome?_append, refusal?_to_expr phrase, refusal?_all_to_expr phrases]

/-- The step of a range is refused for the first of its literals that has no value. -/
theorem refusal?_step_to_expr : (step : Option Phrase) →
    refusal? (stepToExpr step) = (literalsOfStep step).findSome? BadLiteral.of?
  | none => rfl
  | some phrase => by
      rw [stepToExpr, literalsOfStep, refusal?_bind_pure]
      exact refusal?_to_expr phrase

/-- Operands are refused for the first of their literals that has no value. -/
theorem refusal?_chain_to_expr : (more : List (BinaryOp × Phrase)) →
    refusal? (chainToExpr more) = (literalsOfChain more).findSome? BadLiteral.of?
  | [] => rfl
  | (_, phrase) :: more => by
      rw [chainToExpr, literalsOfChain, refusal?_bind fun _ => refusal?_bind_pure _ _,
        List.findSome?_append, refusal?_to_expr phrase, refusal?_chain_to_expr more]
end

/-- The literal for which a phrase is refused is one of its literals, and has no value. -/
theorem of_to_expr_eq_error {phrase : Phrase} {bad : BadLiteral} (h : phrase.toExpr = .error bad) :
    (bad.kind, bad.lexeme) ∈ phrase.literals ∧ bad.kind.isConverted bad.lexeme = false := by
  have hfirst := refusal?_to_expr phrase
  rw [h] at hfirst
  obtain ⟨literal, hmem, hbad⟩ := List.exists_of_findSome?_eq_some hfirst.symm
  obtain ⟨rfl, hnone⟩ := BadLiteral.of?_eq_some hbad
  exact ⟨hmem, hnone⟩

end Phrase

end TextTemplate.Grammar
