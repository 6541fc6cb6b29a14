import TextTemplate.Proofs.Expr.Spans
import TextTemplate.Proofs.Grammar.Denotation
import TextTemplate.Proofs.Grammar.Written

/-!
# Refused literals

What the grammar reads in a source has literals (`Parser.literalsIn`), which are stretches of the
source, one behind the other (`AreLiterals`). A template or an expression that the grammar admits is
parsed if none of its literals is refused, and otherwise the first one that is refused is reported
(`Template.parse_answers`, `Expr.parse_answers`).
-/

namespace TextTemplate

namespace Grammar

open TextTemplate.Grammar.Parser

/-! ## Literals of a source -/

/-- The literals that may denote no value, as a rule of the grammar reads the source, in the order
in which their pairs stand. -/
def Parser.literalsIn (goal : Parser (List Pair)) (source : String) :
    Except ParseError (List (LiteralKind × Lexeme)) :=
  (goal.run source).map Pair.literalsOfAll

/-- The literal denotes no value. -/
def DenotesNothing (literal : LiteralKind × Lexeme) : Prop :=
  ¬ literal.1.Denotes literal.2.text

/-- The literal denotes a value, but in a form that is not admitted. -/
def IsUnadmitted (literal : LiteralKind × Lexeme) : Prop :=
  literal.1.Unadmitted literal.2.text

/-- The literal denotes no value, or it has a form that is not admitted. -/
def IsRefused (literal : LiteralKind × Lexeme) : Prop :=
  DenotesNothing literal ∨ IsUnadmitted literal

/-- The literals are literals of the source, in its order. -/
structure AreLiterals (source : String) (literals : List (LiteralKind × Lexeme)) : Prop where
  literal : ∀ literal ∈ literals, Phrase.IsLiteral source.toList literal
  order : literals.Pairwise fun first second => first.2.Precedes second.2

/-- Of the literals with the property, the bad literal stands first in the source: it ends before
any other one begins. -/
structure BadLiteral.IsFirstIn (source : String) (literals : List (LiteralKind × Lexeme))
    (P : LiteralKind × Lexeme → Prop) (bad : BadLiteral) : Prop where
  mem : (bad.kind, bad.lexeme) ∈ literals
  holds : P (bad.kind, bad.lexeme)
  first : ∀ other ∈ literals, P other → other = (bad.kind, bad.lexeme) ∨
    (bad.lexeme.span source).stop ≤ (other.2.span source).start

/-- What is answered for a source with the literals: if none of them is refused, there is something,
and otherwise the error about the first one that is refused. -/
structure Answers {α : Type} (source : String) (literals : List (LiteralKind × Lexeme))
    (answer : Except ParseError α) : Prop where
  ok_iff : (∃ value, answer = .ok value) ↔ ∀ literal ∈ literals, ¬ IsRefused literal
  error : ∀ error, answer = .error error →
    ∃ bad : BadLiteral, bad.IsFirstIn source literals IsRefused ∧ error = bad.toError source

variable {source : String} {literals : List (LiteralKind × Lexeme)}

/-- The builder finds no value just for the literals that are refused. -/
theorem of?_eq_none_iff {literal : LiteralKind × Lexeme} (h : literal.1.IsText literal.2.text) :
    BadLiteral.of? literal = none ↔ ¬ IsRefused literal := by
  rw [IsRefused, DenotesNothing, IsUnadmitted, not_or, not_not, ← LiteralKind.is_converted_iff h,
    BadLiteral.of?]
  split <;> simp [*]

/-! ## First literals -/

/-- A lexeme that precedes another one ends in the source before the other begins. -/
theorem Lexeme.Precedes.stop_le {first second : Lexeme} (h : first.Precedes second) :
    (first.span source).stop ≤ (second.span source).start :=
  Nat.sub_le_sub_left h _

/-- Of literals in the order of the source, the first one in the list is the first one in the
source. -/
theorem is_first_in_of_append {P : LiteralKind × Lexeme → Prop} {bad : BadLiteral}
    {before after : List (LiteralKind × Lexeme)}
    (hliterals : literals = before ++ (bad.kind, bad.lexeme) :: after)
    (horder : literals.Pairwise fun first second => first.2.Precedes second.2)
    (hbad : P (bad.kind, bad.lexeme)) (hbefore : ∀ literal ∈ before, ¬ P literal) :
    bad.IsFirstIn source literals P := by
  subst hliterals
  refine ⟨List.mem_append_right _ List.mem_cons_self, hbad, fun other hother hholds => ?_⟩
  rcases List.mem_append.mp hother with hother | hother
  · exact absurd hholds (hbefore other hother)
  rcases List.mem_cons.mp hother with rfl | hother
  · exact .inl rfl
  · have hbehind := List.pairwise_cons.mp (List.pairwise_append.mp horder).2.1
    exact .inr (hbehind.1 other hother).stop_le

/-- If there are literals with the property, one of them stands first in the source. -/
theorem exists_is_first_in (horder : literals.Pairwise fun first second => first.2.Precedes second.2)
    {P : LiteralKind × Lexeme → Prop} (h : ∃ literal ∈ literals, P literal) :
    ∃ bad : BadLiteral, bad.IsFirstIn source literals P := by
  classical
  obtain ⟨literal, hmem, hholds⟩ := h
  have hsome : (literals.find? (P ·)).isSome :=
    List.find?_isSome.mpr ⟨literal, hmem, decide_eq_true hholds⟩
  obtain ⟨found, hfound⟩ := Option.isSome_iff_exists.mp hsome
  obtain ⟨hfound, before, after, hliterals, hbefore⟩ := List.find?_eq_some_iff_append.mp hfound
  refine ⟨⟨found.1, found.2⟩, is_first_in_of_append hliterals horder (of_decide_eq_true hfound) ?_⟩
  intro other hother
  simpa using hbefore other hother

/-- The literal for which the builder finds no value first is the first one that is refused. -/
theorem AreLiterals.is_first_in (h : AreLiterals source literals) {bad : BadLiteral}
    (hfind : literals.findSome? BadLiteral.of? = some bad) :
    bad.IsFirstIn source literals IsRefused := by
  obtain ⟨before, literal, after, rfl, hliteral, hbefore⟩ := List.findSome?_eq_some_iff.mp hfind
  have hshaped : ∀ other ∈ before ++ literal :: after, other.1.IsText other.2.text :=
    fun other hother => (h.literal other hother).shaped
  obtain ⟨hshapedBefore, hshapedRest⟩ := List.forall_mem_append.mp hshaped
  obtain ⟨rfl, -⟩ := BadLiteral.of?_eq_some hliteral
  refine is_first_in_of_append rfl h.order ?_ fun other hother => ?_
  · by_contra hnot
    rw [(of?_eq_none_iff (hshapedRest _ List.mem_cons_self)).mpr hnot] at hliteral
    cases hliteral
  · exact (of?_eq_none_iff (hshapedBefore other hother)).mp (hbefore other hother)

/-! ## Answers -/

/-- What is built from the literals is answered, or the first literal is reported for which no value
is found. -/
theorem AreLiterals.answers (h : AreLiterals source literals) {α β : Type}
    {tree : Except BadLiteral α} (f : α → β)
    (hrefusal : Phrase.refusal? tree = literals.findSome? BadLiteral.of?) :
    Answers source literals ((tree.mapError (·.toError source)).map f) := by
  cases tree with
  | ok value =>
      refine ⟨iff_of_true ⟨f value, rfl⟩ fun literal hliteral => ?_, nofun⟩
      have hnone := List.findSome?_eq_none_iff.mp hrefusal.symm
      exact (of?_eq_none_iff (h.literal literal hliteral).shaped).mp (hnone literal hliteral)
  | error bad =>
      have hfirst := h.is_first_in hrefusal.symm
      refine ⟨iff_of_false nofun fun hnone => hnone _ hfirst.mem hfirst.holds, ?_⟩
      rintro _ ⟨⟩
      exact ⟨bad, hfirst, rfl⟩

/-- Where the pairs that a rule leaves have the literals of the value that a recognizer reads, these
are the literals that the rule reads. -/
theorem literals_in_eq {α : Type} {goal : Parser (List Pair)} {recognizer : Parser α}
    {f : α → List (LiteralKind × Lexeme)} (hwrites : Mirrors (Writes f) goal recognizer) :
    goal.literalsIn source = (recognizer.run source).map f := by
  rw [Parser.literalsIn]
  obtain ⟨error, hgoal, hrecognizer⟩ | ⟨pairs, value, hgoal, hrecognizer, hpairs⟩ :=
    run_of_mirrors hwrites source
  · rw [hgoal, hrecognizer]
    rfl
  · rw [hgoal, hrecognizer]
    exact congrArg Except.ok hpairs

/-- Where the recognizer reads a value, the rule reads the literals of that value. -/
theorem literals_in_of_run {α : Type} {goal : Parser (List Pair)} {recognizer : Parser α}
    {f : α → List (LiteralKind × Lexeme)} (hwrites : Mirrors (Writes f) goal recognizer) {value : α}
    (h : recognizer.run source = .ok value) : goal.literalsIn source = .ok (f value) := by
  rw [literals_in_eq hwrites, h]
  rfl

/-- Where a rule reads literals, the recognizer reads a value that has these. -/
theorem exists_run_of_literals_in {α : Type} {goal : Parser (List Pair)} {recognizer : Parser α}
    {f : α → List (LiteralKind × Lexeme)} (hwrites : Mirrors (Writes f) goal recognizer)
    (h : goal.literalsIn source = .ok literals) :
    ∃ value, recognizer.run source = .ok value ∧ f value = literals := by
  rw [literals_in_eq hwrites] at h
  cases hrun : recognizer.run source with
  | error error =>
      rw [hrun] at h
      cases h
  | ok value =>
      rw [hrun] at h
      exact ⟨value, rfl, Except.ok.inj h⟩

/-- The literals that a rule reads in a source are in the order of the source. -/
theorem pairwise_literals_in {goal : Parser (List Pair)} (hnests : Nests Eq goal)
    (h : goal.literalsIn source = .ok literals) :
    literals.Pairwise fun first second => first.2.Precedes second.2 := by
  rw [Parser.literalsIn, Parser.run] at h
  split at h
  · next pairs after attempts heq =>
      obtain rfl := Except.ok.inj h
      obtain ⟨_, hnested, rfl⟩ := hnests (.ofChars source.toList) pairs after (by rw [heq])
      exact hnested.literals_in_order
  · cases h

/-- Segments are refused for the first of their literals that has no value. -/
theorem refusal?_segments (segments : List Segment) :
    Phrase.refusal? (Segment.allToExpr segments) =
      (segments.flatMap Segment.literals).findSome? BadLiteral.of? := by
  induction segments with
  | nil => rfl
  | cons segment segments ih =>
      have hsegment : Phrase.refusal? segment.toExpr =
          segment.literals.findSome? BadLiteral.of? := by
        cases segment with
        | text chars => rfl
        | expression phrase => exact Phrase.refusal?_to_expr phrase
      rw [Segment.allToExpr, Phrase.refusal?_bind fun _ => Phrase.refusal?_bind_pure _ _, hsegment,
        ih, List.flatMap_cons, List.findSome?_append]

/-- The literals of a template are literals of its source. -/
theorem are_literals_of_segments {segments : List Segment}
    (h : wholeTemplate.run source = .ok segments) :
    AreLiterals source (segments.flatMap Segment.literals) := by
  have hliterals := literals_in_of_run whole_template_writes h
  refine ⟨fun literal hliteral => ?_, pairwise_literals_in whole_template_nests hliterals⟩
  have hstays := @whole_template_stays source.toList _ Phrase.is_literal_inherited
  obtain ⟨segment, hsegment, hliteral⟩ := List.mem_flatMap.mp hliteral
  have hholds := holds_of_run hstays h segment hsegment
  cases segment with
  | text chars => cases hliteral
  | expression phrase => exact hholds literal hliteral

/-- The literals of an expression are literals of its source. -/
theorem are_literals_of_phrase {phrase : Phrase} (h : wholeExpression.run source = .ok phrase) :
    AreLiterals source phrase.literals := by
  have hliterals := literals_in_of_run whole_expression_writes h
  exact ⟨holds_of_run (whole_expression_stays Phrase.is_literal_inherited) h,
    pairwise_literals_in whole_expression_nests hliterals⟩

end Grammar

open TextTemplate.Grammar

variable {source : String} {literals : List (LiteralKind × Lexeme)}

/-- A template that the grammar admits is parsed, or its first refused literal is reported. -/
theorem Template.parse_answers (h : Rules.wholeTemplate.literalsIn source = .ok literals) :
    AreLiterals source literals ∧ Answers source literals (Template.parse source) := by
  obtain ⟨segments, hrun, rfl⟩ := exists_run_of_literals_in whole_template_writes h
  have hliterals := are_literals_of_segments hrun
  refine ⟨hliterals, ?_⟩
  have hparse : Template.parse source =
      ((Segment.allToExpr segments).mapError (·.toError source)).map Template.join := by
    rw [Template.parse_eq, hrun]
    change (Segment.readAll source segments >>= fun exprs => pure (Template.join exprs)) = _
    rw [read_all_eq]
    cases Segment.allToExpr segments <;> rfl
  rw [hparse]
  exact hliterals.answers Template.join (refusal?_segments segments)

/-- An expression that the grammar admits is parsed, or its first refused literal is reported. -/
theorem Expr.parse_answers (h : Rules.wholeExpression.literalsIn source = .ok literals) :
    AreLiterals source literals ∧ Answers source literals (Expr.parse source) := by
  obtain ⟨phrase, hrun, rfl⟩ := exists_run_of_literals_in whole_expression_writes h
  have hliterals := are_literals_of_phrase hrun
  refine ⟨hliterals, ?_⟩
  have hparse : Expr.parse source =
      (phrase.toExpr.mapError (·.toError source)).map id := by
    rw [Expr.parse_eq, hrun, Except.map_id]
    exact read_eq source phrase
  rw [hparse]
  exact hliterals.answers id (Phrase.refusal?_to_expr phrase)

end TextTemplate
