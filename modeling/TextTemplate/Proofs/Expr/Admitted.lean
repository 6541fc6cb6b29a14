import TextTemplate.Proofs.Expr.Refused

/-!
# Admitted templates

Only an opened block can keep the grammar from admitting a template. A template in which `@(` does
not stand is parsed unless one of its literals is refused, and it has no literals when no bracket is
closed behind an `@` (`Template.parse_without_block`).
-/

namespace TextTemplate

namespace Grammar

open TextTemplate.Grammar.Parser

variable {α : Type} {source : List Char}

/-! ## Segments without blocks -/

/-- The parser fails where its repetition ends. -/
theorem Repeats.fails {p : Parser α} {c last : Cursor} {values : List α}
    {attempts : Option Attempts} (h : Repeats p c values last attempts) :
    (p last).outcome = none := by
  induction h with
  | stop h => rw [h]
  | step _ _ ih => exact ih

/-- Without an opened block all of a template is made of segments. -/
theorem exists_segmentation (h : ¬ ['@', '('] <:+: source) :
    ∃ segments, segmentation source = .ok segments := by
  obtain ⟨segments, last, attempts, hmany, hrepeats⟩ :=
    exists_repeats segment_consumes (.ofChars source)
  cases hlast : last.rest with
  | nil => exact ⟨segments, segmentation_of_nil hmany hlast⟩
  | cons c more =>
      -- Segments end in front of something only where a block is opened.
      exfalso
      have hnone : segment.reads? (c :: more) = none := by
        rw [reads?, ← hlast, ← cursor_eq_of_chars last, hrepeats.fails, Option.map_none]
      obtain ⟨behind, hopen⟩ := opens_of_segment_eq_none hnone
      have hsuffix : last.rest <:+ source := hrepeats.suffix segment_advances
      rw [hlast, hopen] at hsuffix
      exact h (List.infix_iff_prefix_suffix.mpr ⟨_, List.prefix_append ['@', '('] behind, hsuffix⟩)

/-! ## Segments without closed brackets -/

/-- A bracket is closed somewhere. -/
def ClosesBracket (source : List Char) : Prop :=
  ')' ∈ source ∨ ']' ∈ source

/-- A bracket is closed somewhere behind an `@`. -/
def ClosesBehindAt (source : List Char) : Prop :=
  ∃ behind, '@' :: behind <:+ source ∧ ClosesBracket behind

/-- A character that is read stands in the source. -/
theorem Parser.StaysIn.char_mem (expected : Char) :
    (Parser.char expected).StaysIn source fun _ => expected ∈ source := by
  refine ((StaysIn.char expected).of_spells (Spells.char expected)).mono ?_
  rintro _ ⟨_, hinfix, rfl⟩
  exact hinfix.subset List.mem_cons_self

/-- A function call closes a bracket. -/
theorem function_call_closes :
    (functionCall expression).StaysIn source fun _ => ClosesBracket source := by
  refine ((ident_stays.rule _).bind fun _ _ => ?_).rule _
  refine Parser.StaysIn.bind (P := fun _ => ClosesBracket source) ?_ fun _ h => .pure h
  refine ((StaysIn.char _).bind fun _ _ => StaysIn.blanks.bind fun _ _ =>
    (separated_stays (expression_stays Phrase.is_in_inherited)).bind fun _ _ =>
      StaysIn.blanks.bind fun _ _ =>
      (StaysIn.char_mem ')').bind fun _ h => .pure ?_).rule _
  exact .inl h

/-- What follows an operand is a property, unless it closes a bracket. -/
theorem suffix_closes :
    (suffix expression).StaysIn source fun read =>
      (∃ key, read = .property key) ∨ ClosesBracket source := by
  have hproperty : property.StaysIn source fun read =>
      (∃ key, read = .property key) ∨ ClosesBracket source :=
    ((StaysIn.char _).bind fun _ _ => (ident_stays.rule _).bind fun key _ =>
      .pure (.inl ⟨key, rfl⟩)).rule _
  refine hproperty.or_else (((StaysIn.char _).bind fun _ _ => StaysIn.blanks.bind fun _ _ =>
    (expression_stays Phrase.is_in_inherited).bind fun _ _ => StaysIn.blanks.bind fun _ _ =>
      (StaysIn.char_mem ']').bind fun _ h => .pure ?_).rule _)
  exact .inr (.inr h)

/-- Properties of something without literals have none. -/
theorem literals_attach_properties {suffixes : List Suffix}
    (h : ∀ suffix ∈ suffixes, ∃ key, suffix = .property key) {subject : Phrase}
    (hsubject : subject.literals = []) :
    (suffixes.foldl Suffix.attach subject).literals = [] := by
  rw [literals_attach_all, hsubject, List.nil_append, List.flatMap_eq_nil_iff]
  intro suffix hsuffix
  obtain ⟨key, rfl⟩ := h suffix hsuffix
  rfl

/-- What stands behind an `@` has no literals, unless it closes a bracket. -/
theorem bare_closes (source : List Char) :
    Parser.StaysIn source (fun read : Segment => read.literals = [] ∨ ClosesBracket source) (do
      let head ← orElse (functionCall expression) atom
      let suffixes ← many (suffix expression)
      return .expression (suffixes.foldl Suffix.attach head)) := by
  have hatom : atom.StaysIn source fun head => head.literals = [] ∨ ClosesBracket source :=
    (ident_stays.bind fun _ _ => .pure (.inl rfl)).rule _
  refine ((function_call_closes.mono fun _ h => .inr h).or_else hatom).bind fun head hhead =>
    suffix_closes.many.bind fun suffixes hsuffixes => .pure ?_
  by_cases hcloses : ClosesBracket source
  · exact .inr hcloses
  · refine .inl (literals_attach_properties (fun suffix hsuffix => ?_)
      (hhead.resolve_right hcloses))
    exact (hsuffixes suffix hsuffix).resolve_right hcloses

/-- A segment that is no block has no literals, unless a bracket is closed behind its `@`. -/
theorem segment_closes (hopen : ¬ ['@', '('] <:+: source) :
    segment.StaysIn source fun read => read.literals = [] ∨ ClosesBehindAt source := by
  have hescaped : escapedAt.StaysIn source fun read =>
      read.literals = [] ∨ ClosesBehindAt source :=
    ((StaysIn.chars _).bind fun _ _ => .pure (.inl rfl)).rule _
  have hblock : expressionBlock.StaysIn source fun read =>
      read.literals = [] ∨ ClosesBehindAt source := by
    refine (((StaysIn.chars _).of_spells (Spells.chars _)).bind fun _ hread => ?_).rule _
    obtain ⟨_, hinfix, rfl⟩ := hread
    exact absurd hinfix hopen
  have hbare : bareExpression.StaysIn source fun read =>
      read.literals = [] ∨ ClosesBehindAt source := by
    refine ((StaysIn.behind_char '@' bare_closes).mono fun read hread => ?_).rule _
    obtain ⟨behind, hbehind, hread⟩ := hread
    exact hread.imp_right fun hcloses => ⟨behind, hbehind, hcloses⟩
  have hplain : plainText.StaysIn source fun read =>
      read.literals = [] ∨ ClosesBehindAt source :=
    ((((StaysIn.take_while1 _).mono fun _ _ => trivial).or_else ((StaysIn.char _).bind fun _ _ =>
      (StaysIn.absent _).bind fun _ _ => .pure trivial)).bind fun _ _ => .pure (.inl rfl)).rule _
  refine StaysIn.one_of ?_
  simp only [List.forall_mem_cons]
  exact ⟨hescaped, hblock, hbare, hplain, List.forall_mem_nil _⟩

/-- A template without blocks has no literals, unless a bracket is closed behind an `@`. -/
theorem literals_of_segmentation {segments : List Segment} (h : segmentation source = .ok segments)
    (hopen : ¬ ['@', '('] <:+: source) (hclosed : ¬ ClosesBehindAt source) :
    segments.flatMap Segment.literals = [] := by
  have hwhole : wholeTemplate.StaysIn source fun segments =>
      ∀ segment ∈ segments, segment.literals = [] ∨ ClosesBehindAt source :=
    ((segment_closes hopen).many.bind fun _ hsegments => (StaysIn.end_of_input.rule _).bind
      fun _ _ => .pure hsegments).rule _
  refine List.flatMap_eq_nil_iff.mpr fun segment hsegment => ?_
  exact (of_segmentation hwhole h segment hsegment).resolve_right hclosed

end Grammar

open TextTemplate.Grammar

/-- The grammar admits every template in which no block is opened. The template is parsed just if
none of its literals is refused, and otherwise the error is about the first one that is. There are
no literals unless a bracket is closed behind an `@`. -/
theorem Template.parse_without_block {source : String} (h : ¬ ['@', '('] <:+: source.toList) :
    ∃ literals, Rules.wholeTemplate.literalsIn source = .ok literals ∧
      (∀ literal ∈ literals, Phrase.IsLiteral source.toList literal) ∧
      ((∃ template, Template.parse source = .ok template) ↔
        ∀ literal ∈ literals, ¬ IsRefused literal) ∧
      (∀ error, Template.parse source = .error error →
        ∃ bad : BadLiteral, bad.IsFirstIn source literals IsRefused ∧
          error = ⟨.invalidLiteral bad.kind (String.ofList bad.lexeme.text), source,
            bad.lexeme.span source⟩) ∧
      (¬ ClosesBehindAt source.toList → literals = []) := by
  obtain ⟨segments, hsegments⟩ := exists_segmentation h
  have hrun : wholeTemplate.run source = .ok segments := by
    rw [run_whole_template, hsegments]
    rfl
  have hliterals := literals_in_of_run whole_template_writes hrun
  obtain ⟨hare, hanswers⟩ := Template.parse_answers hliterals
  exact ⟨_, hliterals, hare.literal, hanswers.ok_iff, hanswers.error,
    literals_of_segmentation hsegments h⟩

/-- Brackets that are closed in front of every `@`, a mail address, a call and an index that nothing
closes, and an `@` at the end: all of this is text. An argument that is a timestamp with an offset
and without seconds is refused. -/
theorem Template.parse_mail_and_unclosed_call :
    let source := "a) [b] me@home.org: @total(items, @rows[1 @"
    ¬ ['@', '('] <:+: source.toList ∧ Rules.wholeTemplate.literalsIn source = .ok [] ∧
      (∃ template, Template.parse source = .ok template) ∧
      Template.parse "@f(2020-12-13T23:34+02:00)" = .error ⟨.invalidLiteral .timestamp
        "2020-12-13T23:34+02:00", "@f(2020-12-13T23:34+02:00)", ⟨3, 25⟩⟩ := by
  intro source
  have hblock : ¬ ['@', '('] <:+: source.toList := by
    simp [source, List.infix_cons_iff]
  have hclosed : ¬ ClosesBehindAt source.toList := by
    simp [source, ClosesBehindAt, ClosesBracket, List.suffix_cons_iff]
  obtain ⟨literals, hliterals, -, hok, -, hnone⟩ := Template.parse_without_block hblock
  obtain rfl := hnone hclosed
  exact ⟨hblock, hliterals, hok.mpr (List.forall_mem_nil _), by cbv⟩

end TextTemplate
