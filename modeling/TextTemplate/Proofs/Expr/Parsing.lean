import TextTemplate.Proofs.Expr.Building

/-!
# Parsing by phrases

A whole source is parsed to the trees of the phrases that the recognizer reads in it
(`Template.parse_eq`, `Expr.parse_eq`, `Literal.parse_eq`). So a source is only refused because the
grammar does not admit it, or because a literal in it denotes no value (`Settles`).
-/

namespace TextTemplate

namespace Grammar

open TextTemplate.Grammar.Parser

/-- Parsers that mirror each other both fail on a source, or both read it. -/
theorem run_of_mirrors {α β : Type} {R : α → β → Prop} {p : Parser α} {q : Parser β}
    (h : Mirrors R p q) (source : String) :
    (∃ error, p.run source = .error error ∧ q.run source = .error error) ∨
      ∃ value other, p.run source = .ok value ∧ q.run source = .ok other ∧ R value other := by
  have hc := h (.ofChars source.toList)
  unfold Parser.run
  generalize p (.ofChars source.toList) = first, q (.ofChars source.toList) = second at hc
  cases hc with
  | fails attempts => exact .inl ⟨_, rfl, rfl⟩
  | reads hR after attempts => exact .inr ⟨_, _, rfl, rfl, hR⟩

/-- What is built from a whole source is built from what the recognizer reads. -/
theorem read_whole_eq {α β : Type} {R : List Pair → α → Prop} {goal : Parser (List Pair)}
    {recognizer : Parser α} {build : Pair → Except BuildError β} {tree : α → Except BadLiteral β}
    (h : Mirrors (Holds R) goal recognizer)
    (hbuild : ∀ pair value, Ended R pair.inner value →
      build pair = (tree value).mapError .literal) (source : String) :
    readWhole goal build source =
      (recognizer.run source >>= fun value => (tree value).mapError (·.toError source)) := by
  rw [readWhole]
  obtain ⟨error, hgoal, hrecognizer⟩ | ⟨_, value, hgoal, hrecognizer, pair, rfl, hpair⟩ :=
    run_of_mirrors h source
  · rw [hgoal, hrecognizer]
    rfl
  · rw [hgoal, hrecognizer]
    change ((build pair).mapError _ : Except ParseError β) = (tree value).mapError _
    rw [hbuild pair value hpair]
    cases tree value <;> rfl

/-- The tree of an input is that of the phrase in it. -/
theorem build_input_eq (source : String) (pair : Pair) (phrase : Phrase)
    (h : Ended Builds pair.inner phrase) :
    buildInput source pair = phrase.toExpr.mapError .literal := by
  obtain ⟨_, last, hpair, -, head, rfl, -, hhead⟩ := h
  rw [buildInput, hpair]
  exact hhead

theorem read_eq (source : String) (phrase : Phrase) :
    phrase.read source = phrase.toExpr.mapError (·.toError source) := by
  rw [Phrase.read]
  cases phrase.toExpr <;> rfl

end Grammar

open Grammar

/-- A template is parsed to the trees of the segments that the recognizer reads. -/
theorem Template.parse_eq (source : String) :
    Template.parse source = (do
      let segments ← wholeTemplate.run source
      let exprs ← Segment.readAll source segments
      pure (Template.join exprs)) := by
  have hread : readWhole Rules.wholeTemplate (fun template => buildSegments template.inner) source =
      (wholeTemplate.run source >>= fun segments =>
        (Segment.allToExpr segments).mapError (·.toError source)) :=
    read_whole_eq whole_template_builds (fun _ _ h => build_segments_eq h) source
  rw [Template.parse, hread]
  simp only [read_all_eq, bind_assoc]

/-- An expression is parsed to the tree of the phrase that the recognizer reads. -/
theorem Expr.parse_eq (source : String) :
    Expr.parse source = (do
      let phrase ← wholeExpression.run source
      phrase.read source) := by
  rw [Expr.parse, read_whole_eq whole_expression_builds (build_input_eq source)]
  simp only [read_eq]

/-- A literal is parsed to the value of the phrase that the recognizer reads. -/
theorem Literal.parse_eq (source : String) :
    Literal.parse source = (do
      let phrase ← wholeLiteral.run source
      let expr ← phrase.read source
      expr.literalValue source) := by
  rw [Literal.parse, read_whole_eq whole_literal_builds (build_input_eq source)]
  simp only [read_eq, bind_assoc]

/-! ## Refusals -/

/-- The grammar does not admit the source, or a literal in it denotes no value. -/
def ParseError.IsRefusal (error : ParseError) : Prop :=
  (∃ expected found, error.kind = .unexpectedToken expected found) ∨
    ∃ kind text, error.kind = .invalidLiteral kind text

/-- What is answered has the property, or the source is refused. -/
inductive Settles {α : Type} (P : α → Prop) : Except ParseError α → Prop where
  | ok {value : α} (h : P value) : Settles P (.ok value)
  | error {error : ParseError} (h : error.IsRefusal) : Settles P (.error error)

namespace Settles

variable {α β : Type} {P : α → Prop} {Q : β → Prop} {source : String}

theorem of_ok {value : α} (h : Settles P (.ok value)) : P value := by
  cases h with
  | ok h => exact h

theorem bind {first : Except ParseError α} {next : α → Except ParseError β} (h : Settles P first)
    (hnext : ∀ value, P value → Settles Q (next value)) : Settles Q (first >>= next) := by
  cases h with
  | ok h => exact hnext _ h
  | error h => exact .error h

/-- What the grammar does not admit is refused. -/
theorem of_reads? {p : Parser α}
    (h : ∀ value rest, p.reads? source.toList = some (value, rest) → P value) :
    Settles P (p.run source) := by
  rw [Parser.run]
  split
  · next value after attempts heq =>
      have houtcome : (p (.ofChars source.toList)).outcome = some (value, after) := by rw [heq]
      exact .ok (h value after.rest (reads?_of_outcome houtcome))
  · exact .error (.inl ⟨_, _, rfl⟩)

/-- A literal that denotes no value is refused. -/
theorem of_tree {tree : Except BadLiteral α} (h : ∀ value, tree = .ok value → P value) :
    Settles P (tree.mapError (·.toError source)) := by
  cases tree with
  | ok value => exact .ok (h value rfl)
  | error bad => exact .error (.inr ⟨_, _, rfl⟩)

end Settles

end TextTemplate
