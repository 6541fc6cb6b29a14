import Mathlib
import TextTemplate.Proofs.Expr.Escaping

/-!
# Where parse errors are

Every parse error is about a stretch of the source that it carries. The stretch begins and ends
between characters, so that the source can be cut there, and for a literal that denotes no value it
is the literal as it is written (`ParseError.locates_its_source`). The parsers hand this on: the
places that they report are places in the source (`Parser.StaysIn`), and so are those of literals.
-/

namespace TextTemplate

open TextTemplate.Grammar TextTemplate.Grammar.Parser

/-! ## Stretches of a source -/

/-- The bytes of a text are those of its characters. -/
theorem byte_count_to_list (text : String) : byteCount text.toList = text.utf8ByteSize := by
  have hchars : ∀ cs : List Char, byteCount cs = (String.ofList cs).utf8ByteSize := by
    intro cs
    induction cs with
    | nil => rfl
    | cons c cs ih =>
        rw [byteCount, ih, ← List.singleton_append, String.ofList_append,
          String.utf8ByteSize_append, ← String.singleton_eq_ofList, String.utf8ByteSize_singleton]
  rw [hchars, String.ofList_toList]

/-- The span takes the text out of the source: it begins where the bytes of what stands before the
text end, and it ends where those of the text end. -/
def Span.Takes (source text : String) (span : Span) : Prop :=
  ∃ before after, source = before ++ text ++ after ∧
    span = ⟨before.utf8ByteSize, (before ++ text).utf8ByteSize⟩

/-- The span begins and ends between characters of the source, and does not end before it begins. -/
structure Span.IsWithin (source : String) (span : Span) : Prop where
  start_le_stop : span.start ≤ span.stop
  stop_le_size : span.stop ≤ source.utf8ByteSize
  start_valid : (⟨span.start⟩ : String.Pos.Raw).IsValid source
  stop_valid : (⟨span.stop⟩ : String.Pos.Raw).IsValid source

namespace Span.Takes

variable {source text : String} {span : Span}

/-- A span that takes a text out of the source is within the source. -/
theorem is_within (h : span.Takes source text) : span.IsWithin source := by
  obtain ⟨before, after, rfl, rfl⟩ := h
  refine ⟨?_, ?_, ?_, ?_⟩
  · simp only [String.utf8ByteSize_append]
    exact Nat.le_add_right _ _
  · simp only [String.utf8ByteSize_append]
    exact Nat.le_add_right _ _
  · exact String.Pos.Raw.isValid_iff_exists_append.mpr ⟨before, text ++ after,
      String.append_assoc, rfl⟩
  · exact String.Pos.Raw.isValid_iff_exists_append.mpr ⟨before ++ text, after, rfl, rfl⟩

/-- The text that a span takes is the slice of the source. -/
theorem slice_eq (h : span.Takes source text) : span.slice source.toList = text.toList := by
  obtain ⟨before, after, rfl, rfl⟩ := h
  have hdrop : dropBytes before.utf8ByteSize (before ++ text ++ after).toList =
      text.toList ++ after.toList := by
    rw [String.append_assoc, String.toList_append, String.toList_append, ← byte_count_to_list]
    exact (drop_bytes_append before.toList _ 0).trans (dropBytes.eq_1 _)
  have htake : (before ++ text).utf8ByteSize - before.utf8ByteSize = byteCount text.toList := by
    rw [String.utf8ByteSize_append, Nat.add_sub_cancel_left, byte_count_to_list]
  unfold Span.slice
  rw [hdrop, htake, take_bytes_append]

/-- A stretch of the characters is taken by the span that begins behind the bytes in front of it. -/
theorem of_chars {before text after : List Char} (h : source.toList = before ++ (text ++ after)) :
    Span.Takes source (.ofList text)
      ⟨byteCount before, byteCount before + byteCount text⟩ := by
  have hbytes : ∀ cs, (String.ofList cs).utf8ByteSize = byteCount cs := fun cs => by
    rw [← byte_count_to_list, String.toList_ofList]
  refine ⟨.ofList before, .ofList after, ?_, ?_⟩
  · rw [← String.ofList_append, ← String.ofList_append, List.append_assoc, ← h,
      String.ofList_toList]
  · rw [← String.ofList_append, hbytes, hbytes, byte_count_append]

end Span.Takes

/-! ## Errors -/

/-- How a literal with the reported text is written; the text of a capture is its index. -/
def Grammar.LiteralKind.written (kind : LiteralKind) (text : String) : String :=
  match kind with
  | .captureIndex => "&" ++ text
  | _ => text

/-- The error carries the source and is about a stretch of it, which is the literal as it is written
if the error is about a literal. -/
structure ParseError.IsLocated (source : String) (error : ParseError) : Prop where
  source_eq : error.source = source
  takes : ∃ text, error.span.Takes source text ∧
    ∀ kind reported, error.kind = .invalidLiteral kind reported → text = kind.written reported

namespace Grammar

variable {source : String} {α : Type} {Q : α → Prop} {p : Parser α}

/-- A parser that stays in the source reads what it is known to read. -/
theorem holds_of_run (hp : p.StaysIn source.toList Q) {value : α}
    (h : p.run source = .ok value) : Q value := by
  obtain ⟨-, houtcome⟩ := hp (.ofChars source.toList) (List.suffix_refl _)
  rw [Parser.run] at h
  split at h
  · next found after attempts heq =>
      obtain rfl := Except.ok.inj h
      exact (houtcome found after (by rw [heq])).2
  · cases h

/-- A parser that stays in the source fails at a place in the source. -/
theorem is_located_of_run (hp : p.StaysIn source.toList Q) {error : ParseError}
    (h : p.run source = .error error) : error.IsLocated source := by
  obtain ⟨hattempts, -⟩ := hp (.ofChars source.toList) (List.suffix_refl _)
  rw [Parser.run] at h
  split at h
  · cases h
  · next attempts heq =>
      rw [heq] at hattempts
      obtain rfl := Except.error.inj h
      refine ⟨rfl, "", ?_, fun _ _ hkind => by cases hkind⟩
      cases attempts with
      | none =>
          have hsource : source.toList = [] ++ ([] ++ source.toList) := rfl
          rw [Attempts.toError]
          dsimp only
          rw [Nat.sub_self]
          exact .of_chars hsource
      | some attempts =>
          obtain ⟨rest, ⟨before, hsource⟩, hplace⟩ := hattempts
          have hsplit : source.toList = before ++ ([] ++ rest) := hsource.symm
          rw [Attempts.toError]
          dsimp only
          rw [hplace, ← hsource, byte_count_append, Nat.add_sub_cancel]
          exact .of_chars hsplit

/-- The span of a lexeme begins behind what stands in front of the lexeme and is as long as its
text. -/
theorem Lexeme.IsIn.exists_stretch {lexeme : Lexeme} (h : lexeme.IsIn source.toList) :
    ∃ before rest, source.toList = before ++ (lexeme.text ++ rest) ∧
      lexeme.span source = ⟨byteCount before, byteCount before + byteCount lexeme.text⟩ := by
  obtain ⟨rest, ⟨before, hsource⟩, hleft, hafter⟩ := h
  refine ⟨before, rest, hsource.symm, ?_⟩
  rw [Lexeme.span, hleft, hafter, ← hsource, byte_count_append, byte_count_append]
  congr 1 <;> omega

/-- The span of a lexeme takes its text out of the source. -/
theorem Lexeme.IsIn.span_takes {lexeme : Lexeme} (h : lexeme.IsIn source.toList) :
    (lexeme.span source).Takes source (.ofList lexeme.text) := by
  obtain ⟨before, rest, hsource, hspan⟩ := h.exists_stretch
  rw [hspan]
  exact .of_chars hsource

/-- The error of a literal of the source is located at the literal. -/
theorem is_located_of_bad {bad : BadLiteral}
    (h : Phrase.IsWrittenIn source.toList (bad.kind, bad.lexeme)) :
    (bad.toError source).IsLocated source := by
  obtain ⟨kind, lexeme⟩ := bad
  have hkept : ∀ other reported, (BadLiteral.toError source ⟨kind, lexeme⟩).kind =
      .invalidLiteral other reported →
        kind.written (.ofList lexeme.text) = other.written reported := by
    intro other reported hkind
    cases hkind
    rfl
  refine ⟨rfl, kind.written (.ofList lexeme.text), ?_, hkept⟩
  cases kind with
  | captureIndex =>
      have htakes := Lexeme.IsIn.span_takes h
      rw [← List.singleton_append, String.ofList_append] at htakes
      exact htakes
  | _ => exact Lexeme.IsIn.span_takes h

/-- A phrase of the source is refused at one of its literals. -/
theorem is_located_of_phrase {phrase : Phrase} (hphrase : phrase.IsIn source.toList)
    {bad : BadLiteral} (h : phrase.toExpr = .error bad) : (bad.toError source).IsLocated source :=
  is_located_of_bad (hphrase _ (Phrase.of_to_expr_eq_error h).1)

/-- A scalar stays in the source, and what the grammar hands on holds of its phrase. -/
theorem scalar_stays {R : Phrase → Prop} (hR : Phrase.Inherited source.toList R) :
    scalar.StaysIn source.toList R := by
  refine StaysIn.one_of ?_
  simp only [List.forall_mem_cons]
  exact ⟨timestamp_stays hR, decimal_stays hR, integer_stays hR, boolean_stays hR,
    List.forall_mem_nil _⟩

end Grammar

/-! ## Parsers -/

section

variable {source : String} {error : ParseError}

/-- The errors of templates are located. -/
theorem Template.is_located_of_parse (h : Template.parse source = .error error) :
    error.IsLocated source := by
  have hstays := @whole_template_stays source.toList _ Phrase.is_in_inherited
  rw [Template.parse_eq] at h
  obtain h | ⟨segments, hsegments, h⟩ := error_of_bind h
  · exact is_located_of_run hstays h
  rw [read_all_eq] at h
  obtain h | ⟨_, -, h⟩ := error_of_bind h
  · cases htrees : Segment.allToExpr segments with
    | ok exprs =>
        rw [htrees] at h
        cases h
    | error bad =>
        rw [htrees] at h
        cases h
        obtain ⟨phrase, hmem, hbad⟩ := exists_phrase_of_all_to_expr htrees
        exact is_located_of_phrase (holds_of_run hstays hsegments _ hmem) hbad
  · cases h

/-- The errors of phrases of the source are located. -/
theorem Grammar.is_located_of_read {phrase : Phrase} (hphrase : phrase.IsIn source.toList)
    (h : phrase.read source = .error error) : error.IsLocated source := by
  rw [read_eq] at h
  cases htree : phrase.toExpr with
  | ok expr =>
      rw [htree] at h
      cases h
  | error bad =>
      rw [htree] at h
      cases h
      exact is_located_of_phrase hphrase htree

/-- The errors of expressions are located. -/
theorem Expr.is_located_of_parse (h : Expr.parse source = .error error) :
    error.IsLocated source := by
  have hstays := @whole_expression_stays source.toList _ Phrase.is_in_inherited
  rw [Expr.parse_eq] at h
  obtain h | ⟨phrase, hphrase, h⟩ := error_of_bind h
  · exact is_located_of_run hstays h
  · exact is_located_of_read (holds_of_run hstays hphrase) h

/-- A tree that is no literal is refused as a whole. -/
theorem Expr.is_located_of_literal_value {expr : Expr}
    (h : expr.literalValue source = .error error) : error.IsLocated source := by
  have hwhole : (Lexeme.whole source).IsIn source.toList := by
    refine ⟨[], ?_, ?_, rfl⟩
    · rw [List.append_nil]
      exact List.suffix_refl _
    · rw [List.append_nil]
      rfl
  unfold Expr.literalValue at h
  split at h
  · cases h
  · obtain rfl := Except.error.inj h
    exact ⟨rfl, _, hwhole.span_takes, nofun⟩

/-- The errors of literals are located. -/
theorem Literal.is_located_of_parse (h : Literal.parse source = .error error) :
    error.IsLocated source := by
  have hstays : wholeLiteral.StaysIn source.toList (Phrase.IsIn source.toList) :=
    ((scalar_stays Phrase.is_in_inherited).bind fun _ hphrase =>
      (StaysIn.end_of_input.rule _).bind fun _ _ => .pure hphrase).rule _
  rw [Literal.parse_eq] at h
  obtain h | ⟨phrase, hphrase, h⟩ := error_of_bind h
  · exact is_located_of_run hstays h
  obtain h | ⟨expr, -, h⟩ := error_of_bind h
  · exact is_located_of_read (holds_of_run hstays hphrase) h
  · exact Expr.is_located_of_literal_value h

end

/-- Every error of a parser carries its source, and its span begins and ends between characters of
the source, so that the source can be cut there. If it is about a literal that denotes no value, the
slice of the source at the span is the literal: the reported text or, for a capture, the ampersand
and the reported index. -/
theorem ParseError.locates_its_source {source : String} {error : ParseError}
    (h : Template.parse source = .error error ∨ Expr.parse source = .error error ∨
      Literal.parse source = .error error) :
    error.source = source ∧ error.span.IsWithin source ∧
      ∀ kind reported, error.kind = .invalidLiteral kind reported →
        String.ofList (error.span.slice source.toList) = kind.written reported := by
  have hlocated : error.IsLocated source := by
    rcases h with h | h | h
    · exact Template.is_located_of_parse h
    · exact Expr.is_located_of_parse h
    · exact Literal.is_located_of_parse h
  obtain ⟨hsource, text, htakes, hwritten⟩ := hlocated
  refine ⟨hsource, htakes.is_within, fun kind reported hkind => ?_⟩
  rw [htakes.slice_eq, String.ofList_toList, hwritten kind reported hkind]

/-- The index of the capture is too large. It stands behind characters of two and three bytes. -/
theorem ParseError.locates_capture_behind_accents :
    let source := "é€ @(f(&99999999999999999999))"
    let error : ParseError :=
      ⟨.invalidLiteral .captureIndex "99999999999999999999", source, ⟨10, 31⟩⟩
    Template.parse source = .error error ∧ error.span.IsWithin source ∧
      String.ofList (error.span.slice source.toList) = "&99999999999999999999" := by
  intro source error
  have hparse : Template.parse source = .error error := by cbv
  obtain ⟨-, hwithin, hslice⟩ := ParseError.locates_its_source (.inl hparse)
  exact ⟨hparse, hwithin, hslice _ _ rfl⟩

end TextTemplate
