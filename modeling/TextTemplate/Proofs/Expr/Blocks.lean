import TextTemplate.Proofs.Expr.Surface

/-!
# Templates of one block

An expression in parentheses behind an `@` is a template of its own, with the expression as its only
segment. In particular every tree that can be written down, however deeply it is nested, is the tree
of a template (`parse_block_surface`).
-/

namespace TextTemplate

open TextTemplate.Grammar TextTemplate.Grammar.Parser

variable {cs tail rest : List Char} {expr : Expr}

namespace Grammar

/-- An expression with blanks around it is read between the parentheses of a block. -/
theorem reads?_segment_block {phrase : Phrase}
    (hexpression : expression.reads? (cs.dropWhile isBlank) = some (phrase, tail))
    (htail : tail.dropWhile isBlank = ')' :: rest) :
    segment.reads? ('@' :: '(' :: cs) = some (.expression phrase, rest) := by
  have hescaped : escapedAt.reads? ('@' :: '(' :: cs) = none := by
    simp [escapedAt]
  have hblock : expressionBlock.reads? ('@' :: '(' :: cs) = some (.expression phrase, rest) := by
    simp [expressionBlock, hexpression, htail]
  rw [segment, reads?_one_of_cons, hescaped, Option.none_or, reads?_one_of_cons, hblock,
    Option.some_or]

/-- Nothing is read behind the last segment. -/
theorem reads?_segment_nil : segment.reads? [] = none := by
  simp [segment, escapedAt, expressionBlock, bareExpression, functionCall, atom, plainText]

/-- A block that takes the whole source is the only segment. -/
theorem reads?_whole_template_block {phrase : Phrase}
    (hexpression : expression.reads? (cs.dropWhile isBlank) = some (phrase, tail))
    (htail : tail.dropWhile isBlank = [')']) :
    wholeTemplate.reads? ('@' :: '(' :: cs) = some ([.expression phrase], []) := by
  have hmany : ReadsMany segment ('@' :: '(' :: cs) [.expression phrase] [] :=
    .step (reads?_segment_block hexpression htail) (by simp) (.stop reads?_segment_nil)
  simp [wholeTemplate, theEnd, reads?_many hmany]

end Grammar

/-- A source that is one block is parsed to the tree of its expression. -/
theorem Template.parse_block (h : expression.Yields (cs.dropWhile isBlank) expr tail)
    (htail : tail.dropWhile isBlank = [')']) :
    Template.parse (String.ofList ('@' :: '(' :: cs)) = .ok [expr] := by
  obtain ⟨phrase, hreads, hexpr⟩ := h
  let source := String.ofList ('@' :: '(' :: cs)
  have hread : (Segment.expression phrase).read source = .ok expr := by
    rw [Segment.read, Phrase.read, hexpr]
  have hall : Segment.readAll source [.expression phrase] = .ok [expr] := by
    rw [Segment.readAll, hread]
    rfl
  have hjoin : Template.join [expr] = [expr] := by
    cases expr <;> rfl
  rw [Template.parse_eq, run_eq_ok (reads?_whole_template_block hreads htail)]
  change (Segment.readAll source [.expression phrase]).bind _ = _
  rw [hall]
  exact congrArg Except.ok hjoin

/-- Every tree that can be written down is the tree of a template, its surface form in a block. -/
theorem Template.parse_block_surface {ws : List Char} (hws : ∀ c ∈ ws, isBlank c)
    (h : Writable expr) :
    Template.parse (String.ofList ('@' :: enclosed ws '(' (surface ws expr) ')')) =
      .ok [expr] := by
  have hends : Ends (ws ++ [')']) [')'] := .of_closing hws (by decide) []
  have hlength : (surface ws expr).length < byteCount (surface ws expr ++ (ws ++ [')'])) + 1 := by
    have hle := length_le_byte_count (surface ws expr ++ (ws ++ [')']))
    rw [List.length_append] at hle
    omega
  have hyields : expression.Yields (surface ws expr ++ (ws ++ [')'])) expr [')'] := by
    rw [Parser.Yields, reads?_expression]
    exact recognizes_expression_within hws h hlength hends
  have hopening : (ws ++ (surface ws expr ++ (ws ++ [')']))).dropWhile isBlank =
      surface ws expr ++ (ws ++ [')']) :=
    (surface_begins h _).drop_while_append hws
  rw [enclosed, List.append_assoc, List.append_assoc]
  exact Template.parse_block (hopening.symm ▸ hyields) rfl

end TextTemplate
