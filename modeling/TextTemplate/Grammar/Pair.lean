import TextTemplate.Grammar.Parser

/-!
# Pairs

A pair is what a rule of the grammar leaves behind: the rule, the stretch of the source that it
took, and the pairs of the rules within it in their order. Pairs are all that is known of a source
when its tree is built.
-/

namespace TextTemplate.Grammar

/-- What a rule took of the source, between the places where it began and stopped. -/
inductive Pair where
  | mk (goal : Goal) (start stop : Cursor) (inner : List Pair)

namespace Pair

/-- The rule that left the pair. -/
def goal : Pair → Goal
  | mk goal _ _ _ => goal

/-- The pairs of the rules within the rule. -/
def inner : Pair → List Pair
  | mk _ _ _ inner => inner

/-- The stretch of the source between two places. -/
def stretch (start stop : Cursor) : Lexeme :=
  ⟨takeBytes (start.bytesLeft - stop.bytesLeft) start.rest, start.bytesLeft, stop.bytesLeft⟩

/-- The stretch of the source that the rule took. -/
def lexeme : Pair → Lexeme
  | mk _ start stop _ => stretch start stop

end Pair

namespace Parser

/-- Reads a rule whose body leaves pairs, and leaves a pair for the rule that holds them. -/
def pair (goal : Goal) (body : Parser (List Pair)) : Parser (List Pair) := fun c =>
  match rule goal body c with
  | ⟨some (inner, after), attempts⟩ => ⟨some ([.mk goal c after inner], after), attempts⟩
  | ⟨none, attempts⟩ => ⟨none, attempts⟩

/-- Reads a rule that leaves a single pair. -/
def token {α : Type} (goal : Goal) (body : Parser α) : Parser (List Pair) :=
  pair goal do
    let _ ← body
    return []

end Parser

end TextTemplate.Grammar
