import TextTemplate.Proofs.Expr.Refused

/-!
# The first bad literal

Of the literals of a source that are refused, the one that stands first is reported, however
operators, brackets, calls, ranges and lambdas surround it: operands are grouped before they are
read, but they are read in their order (`Grouping.read_of_chain`). A literal that denotes no value is
refused, and so is a timestamp with a numeric offset and without seconds. The first literal that
denotes nothing is therefore the one that is reported, unless such a timestamp stands in front of it
(`first_bad_literal_is_reported`).
-/

namespace TextTemplate

open TextTemplate.Grammar

namespace Grammar

variable {source : String} {literals : List (LiteralKind × Lexeme)}

/-- A literal takes some of the source. -/
theorem Phrase.IsLiteral.start_lt_stop {literal : LiteralKind × Lexeme}
    (h : Phrase.IsLiteral source.toList literal) :
    (literal.2.span source).start < (literal.2.span source).stop := by
  have hstretch : ∀ lexeme : Lexeme, lexeme.IsIn source.toList → lexeme.text ≠ [] →
      (lexeme.span source).start < (lexeme.span source).stop := by
    intro lexeme hlexeme hne
    obtain ⟨before, rest, -, hspan⟩ := hlexeme.exists_stretch
    have hbytes := length_le_byte_count lexeme.text
    have hlength := List.length_pos_iff.mpr hne
    rw [hspan]
    dsimp only
    omega
  obtain ⟨kind, lexeme⟩ := literal
  cases kind with
  | captureIndex => exact hstretch { lexeme with text := '&' :: lexeme.text } h.written nofun
  | _ => exact hstretch lexeme h.written h.shaped.ne_nil

/-- Of two literals, at most one stands in front of the other. -/
theorem AreLiterals.not_before_each_other (h : AreLiterals source literals)
    {first second : LiteralKind × Lexeme} (hfirst : first ∈ literals) (hsecond : second ∈ literals)
    (hbefore : (first.2.span source).stop ≤ (second.2.span source).start) :
    ¬ (second.2.span source).stop ≤ (first.2.span source).start := by
  have hlength := (h.literal first hfirst).start_lt_stop
  have hlengthSecond := (h.literal second hsecond).start_lt_stop
  omega

/-- At most one literal with a property stands first. -/
theorem AreLiterals.first_unique (h : AreLiterals source literals)
    {P : LiteralKind × Lexeme → Prop} {bad other : BadLiteral}
    (hbad : bad.IsFirstIn source literals P) (hother : other.IsFirstIn source literals P) :
    bad = other := by
  have hpair : (bad.kind, bad.lexeme) = (other.kind, other.lexeme) := by
    rcases hbad.first _ hother.mem hother.holds with heq | hbefore
    · exact heq.symm
    · refine (hother.first _ hbad.mem hbad.holds).resolve_right ?_
      exact h.not_before_each_other hbad.mem hother.mem hbefore
  obtain ⟨kind, lexeme⟩ := bad
  obtain ⟨rfl, rfl⟩ := Prod.mk.inj hpair
  rfl

/-- The answer is the error about the first literal that is refused. This is the first literal that
denotes nothing just if no timestamp in a form that is not admitted stands in front of that one. -/
def ReportsFirst {α : Type} (source : String) (literals : List (LiteralKind × Lexeme))
    (answer : Except ParseError α) : Prop :=
  ∃ bad refused : BadLiteral,
    bad.IsFirstIn source literals DenotesNothing ∧ refused.IsFirstIn source literals IsRefused ∧
    answer = .error ⟨.invalidLiteral refused.kind (String.ofList refused.lexeme.text), source,
      refused.lexeme.span source⟩ ∧
    (refused = bad ↔ ∀ literal ∈ literals, IsUnadmitted literal →
      (bad.lexeme.span source).stop ≤ (literal.2.span source).start)

/-- What is answered for a source in which a literal denotes nothing is the error about the first
literal that is refused. -/
theorem Answers.reports_first {α : Type} {answer : Except ParseError α}
    (hliterals : AreLiterals source literals) (h : Answers source literals answer)
    (hbad : ∃ literal ∈ literals, DenotesNothing literal) :
    ReportsFirst source literals answer := by
  obtain ⟨bad, hfirstBad⟩ := @exists_is_first_in source _ hliterals.order _ hbad
  have hbadRefused : IsRefused (bad.kind, bad.lexeme) := .inl hfirstBad.holds
  cases answer with
  | ok value => exact absurd hbadRefused (h.ok_iff.mp ⟨value, rfl⟩ _ hfirstBad.mem)
  | error error =>
      obtain ⟨refused, hfirst, rfl⟩ := h.error error rfl
      refine ⟨bad, refused, hfirstBad, hfirst, rfl, ?_, fun hbehind => ?_⟩
      · rintro rfl literal hliteral hunadmitted
        refine (hfirst.first literal hliteral (.inr hunadmitted)).resolve_left ?_
        rintro rfl
        exact hfirstBad.holds hunadmitted.denotes
      · have hnothing : DenotesNothing (refused.kind, refused.lexeme) := by
          refine hfirst.holds.resolve_right fun hunadmitted => ?_
          rcases hfirst.first _ hfirstBad.mem hbadRefused with heq | hearlier
          · have hholds := hfirstBad.holds
            rw [heq] at hholds
            exact hholds hunadmitted.denotes
          · have hlater := hbehind _ hfirst.mem hunadmitted
            exact hliterals.not_before_each_other hfirst.mem hfirstBad.mem hearlier hlater
        exact hliterals.first_unique
          ⟨hfirst.mem, hnothing, fun other hother h => hfirst.first other hother (.inl h)⟩ hfirstBad

end Grammar

/-- If the grammar admits a source, as a template or as an expression, and a literal in it denotes no
value, then the error is about the first literal in the source that is refused, whatever stands
around it. This is the first literal that denotes no value, unless a timestamp with a numeric offset
and without seconds stands in front of it. -/
theorem first_bad_literal_is_reported {source : String} {literals : List (LiteralKind × Lexeme)}
    (hbad : ∃ literal ∈ literals, DenotesNothing literal) :
    (Rules.wholeTemplate.literalsIn source = .ok literals →
      ReportsFirst source literals (Template.parse source)) ∧
    (Rules.wholeExpression.literalsIn source = .ok literals →
      ReportsFirst source literals (Expr.parse source)) := by
  refine ⟨fun h => ?_, fun h => ?_⟩
  · obtain ⟨hliterals, hanswers⟩ := Template.parse_answers h
    exact hanswers.reports_first hliterals hbad
  · obtain ⟨hliterals, hanswers⟩ := Expr.parse_answers h
    exact hanswers.reports_first hliterals hbad

set_option maxRecDepth 1000 in
/-- A power binds its operands first, and neither of these denotes a value: the index of the capture
is reported, also in a lambda among the arguments of a function. In the list only the integer denotes
no value, but the timestamp in front of it has a form that is not admitted. -/
theorem first_bad_capture_is_reported :
    let template := "é@(f(&(2+&18446744073709551616^99999999999999999999)))"
    let inTemplate : List (LiteralKind × Lexeme) :=
      [(.integer, ⟨['2'], 47, 46⟩), (.captureIndex, ⟨"18446744073709551616".toList, 45, 24⟩),
        (.integer, ⟨"99999999999999999999".toList, 23, 3⟩)]
    let expression := "[2020-12-13T23:34+02:00, 99999999999999999999]"
    let inExpression : List (LiteralKind × Lexeme) :=
      [(.timestamp, ⟨"2020-12-13T23:34+02:00".toList, 45, 23⟩),
        (.integer, ⟨"99999999999999999999".toList, 21, 1⟩)]
    ReportsFirst template inTemplate (Template.parse template) ∧
      ReportsFirst expression inExpression (Expr.parse expression) ∧
      Expr.parse expression = .error ⟨.invalidLiteral .timestamp "2020-12-13T23:34+02:00",
        expression, ⟨1, 23⟩⟩ := by
  intro template inTemplate expression inExpression
  have hinTemplate : Rules.wholeTemplate.literalsIn template = .ok inTemplate := by cbv
  have hinExpression : Rules.wholeExpression.literalsIn expression = .ok inExpression := by cbv
  have hcapture : ¬ LiteralKind.Denotes "18446744073709551616".toList .captureIndex := by
    rw [LiteralKind.Denotes]
    decide
  have hinteger : ¬ LiteralKind.Denotes "99999999999999999999".toList .integer := by
    rintro ⟨digits, -, ⟨rfl, hless⟩ | ⟨heq, -⟩⟩
    · exact absurd hless (by decide)
    · cases heq
  have hbadTemplate : ∃ literal ∈ inTemplate, DenotesNothing literal :=
    ⟨_, .tail _ (.head _), hcapture⟩
  have hbadExpression : ∃ literal ∈ inExpression, DenotesNothing literal :=
    ⟨_, .tail _ (.head _), hinteger⟩
  exact ⟨(first_bad_literal_is_reported hbadTemplate).1 hinTemplate,
    (first_bad_literal_is_reported hbadExpression).2 hinExpression, by cbv⟩

end TextTemplate
