import TextTemplate.Proofs.Grammar.Operands
import TextTemplate.Proofs.Grammar.Shapes
import TextTemplate.Proofs.Time.Text

/-!
# Literals that take a whole source

What `Literal.parse` can answer: integers, finite doubles, truth values and timestamps that their
own text denotes again. `parse_timestamp_text` says that such a timestamp's text is parsed back to
it.
-/

namespace TextTemplate

open TextTemplate.Grammar TextTemplate.Grammar.Parser TextTemplate.Number TextTemplate.Time
  TextTemplate.Time.Timestamp

/-! ## Reading timestamps -/

/-- A number of few enough digits is read as that many digits. -/
theorem reads?_digit_count {width n : Nat} (hwidth : 0 < width) (h : n < 10 ^ width)
    (rest : List Char) :
    (digitCount width).reads? (paddedDigits width n ++ rest) = some ((), rest) := by
  have hdigits : ∀ c ∈ paddedDigits width n, c.isDigit := is_digit_of_mem_padded_digits
  have hread := reads?_exactly hdigits rest
  rwa [length_padded_digits hwidth h] at hread

/-- A number of two digits is read as two digits. -/
theorem reads?_two_digits {n : Nat} (h : n < 100) (rest : List Char) :
    (digitCount 2).reads? (paddedDigits 2 n ++ rest) = some ((), rest) :=
  reads?_digit_count (by decide) h rest

/-- An offset is read to the end, if it is written. -/
theorem reads?_offset_text {offset : OffsetForm} (h : offset.fits) :
    ∃ read, (optional Grammar.offset).reads? offset.text = some (read, []) := by
  cases offset with
  | missing => exact ⟨none, rfl⟩
  | letter small => cases small <;> exact ⟨some (), rfl⟩
  | numeric west hours minutes colon =>
      simp only [OffsetForm.fits, Bool.and_eq_true, decide_eq_true_eq] at h
      have hhours := reads?_two_digits h.1
      have hminutes := reads?_two_digits h.2 []
      rw [List.append_nil] at hminutes
      refine ⟨some (), ?_⟩
      cases colon with
      | true =>
          cases west <;> simp [OffsetForm.text, Grammar.offset, numericOffset, hhours, hminutes]
      | false =>
          have hstops : Stops (· == ':') (paddedDigits 2 minutes ++ []) :=
            stops_padded_digits (fun _ => beq_eq_false_of_is_digit rfl) 2 minutes []
          rw [List.append_nil] at hstops
          have hcolon := reads?_char_eq_none hstops
          cases west <;>
            simp [OffsetForm.text, Grammar.offset, numericOffset, hhours, hminutes, hcolon]

/-- A fraction is read up to where its digits end. -/
theorem reads?_fraction_text {fraction : List Char} (h : ∀ c ∈ fraction, c.isDigit)
    (offset : OffsetForm) :
    ∃ read, (optional secondFraction).reads? (fractionText fraction ++ offset.text) =
      some (read, offset.text) := by
  cases fraction with
  | nil =>
      have hpoint : Stops (· == '.') offset.text := offset.stops (by decide)
      refine ⟨none, ?_⟩
      simp [fractionText, secondFraction, reads?_char_eq_none hpoint]
  | cons c digits =>
      have hdigits := reads?_digits (List.cons_ne_nil c digits) h (offset.stops (by decide))
      rw [List.cons_append] at hdigits
      refine ⟨some (), ?_⟩
      simp [fractionText, secondFraction, hdigits]

/-- A second is read with its fraction, if it is written. -/
theorem reads?_second_text {second : Option (Nat × List Char)}
    (hcount : (second.getD (0, [])).1 < 100)
    (hfraction : ∀ c ∈ (second.getD (0, [])).2, c.isDigit) (offset : OffsetForm) :
    ∃ read, (optional Grammar.second).reads? (secondText second ++ offset.text) =
      some (read, offset.text) := by
  cases second with
  | none =>
      have hcolon : Stops (· == ':') offset.text := offset.stops (by decide)
      refine ⟨none, ?_⟩
      simp [secondText, Grammar.second, reads?_char_eq_none hcolon]
  | some second =>
      obtain ⟨count, fraction⟩ := second
      have hcountRead := reads?_two_digits (show count < 100 from hcount)
        (fractionText fraction ++ offset.text)
      obtain ⟨read, hfractionRead⟩ :=
        reads?_fraction_text (show ∀ c ∈ fraction, c.isDigit from hfraction) offset
      have hread : Grammar.second.reads?
          (':' :: (paddedDigits 2 count ++ (fractionText fraction ++ offset.text))) =
            some ((), offset.text) := by
        simp only [Grammar.second, reads?_bind, reads?_char_cons, if_true, Option.bind_some,
          hcountRead, hfractionRead, reads?_pure]
      refine ⟨some (), ?_⟩
      rw [secondText, List.cons_append, List.append_assoc, reads?_optional, hread]
      rfl

/-- A form is read as a timestamp that takes all of it. -/
theorem reads?_timestamp_form {form : TimestampForm} (h : form.Fits) :
    Grammar.timestamp.reads? form.chars =
      some (.timestamp ⟨form.chars, byteCount form.chars, 0⟩, []) := by
  have hyear := reads?_digit_count (show 0 < 4 by omega) (show form.year < 10 ^ 4 from h.year)
  obtain ⟨second, hsecond⟩ := reads?_second_text h.second h.fraction form.offset
  obtain ⟨offset, hoffset⟩ := reads?_offset_text h.offset
  have hreads : (do
      date
      let _ ← char 'T'
      time
      optional Grammar.offset : Parser (Option Unit)).reads? (form.chars ++ []) =
        some (offset, []) := by
    simp only [List.append_nil, TimestampForm.chars, date, time, reads?_bind, reads?_char_cons,
      if_true, Option.bind_some, reads?_pure, hyear, reads?_two_digits h.month,
      reads?_two_digits h.day, reads?_two_digits h.hour, reads?_two_digits h.minute, hsecond,
      hoffset]
  have hlexeme := reads?_lexeme hreads
  rw [List.append_nil] at hlexeme
  rw [Grammar.timestamp, reads?_rule, reads?_bind, hlexeme]
  rfl

/-- The text of a written timestamp is parsed back to the timestamp. -/
theorem parse_timestamp_text {t : Timestamp} (h : t.IsWritten) :
    Literal.parse t.text = .ok (.dateTime t) := by
  obtain ⟨form, hchars, hfits, -⟩ := exists_form h .digits
  have hform := reads?_timestamp_form hfits
  rw [hchars] at hform
  obtain ⟨lexeme, htext, hreads⟩ : ∃ lexeme : Lexeme, lexeme.text = t.digits .digits ∧
      Grammar.timestamp.reads? (t.digits .digits) = some (.timestamp lexeme, []) :=
    ⟨_, rfl, hform⟩
  have hwhole : wholeLiteral.reads? (t.digits .digits) = some (.timestamp lexeme, []) := by
    simp [wholeLiteral, scalar, theEnd, hreads]
  have hread : (Phrase.timestamp lexeme).read t.text = .ok (.literal (.dateTime t)) := by
    rw [Phrase.read, Phrase.toExpr, Lexeme.timestamp?, htext, of_literal?_digits h]
    rfl
  rw [Literal.parse_eq, Timestamp.text, run_eq_ok hwhole]
  change ((Phrase.timestamp lexeme).read t.text).bind _ = _
  rw [hread]
  rfl

/-! ## What is read -/

/-- The phrases of literals that are no strings. -/
inductive ScalarPhrase : Phrase → Prop where
  | integer (lexeme : Lexeme) : ScalarPhrase (.integer lexeme)
  | decimal (lexeme : Lexeme) : ScalarPhrase (.decimal lexeme)
  | timestamp (lexeme : Lexeme) (shaped : LiteralKind.IsText lexeme.text .timestamp) :
      ScalarPhrase (.timestamp lexeme)
  | boolean (value : Bool) : ScalarPhrase (.boolean value)

/-- A scalar is read as one of the four kinds. -/
theorem scalar_phrase_of_reads? {cs rest : List Char} {phrase : Phrase}
    (h : scalar.reads? cs = some (phrase, rest)) : ScalarPhrase phrase := by
  simp only [scalar, reads?_one_of_cons, reads?_one_of_nil, Option.or_eq_some_iff] at h
  rcases h with h | ⟨-, h | ⟨-, h | ⟨-, h | ⟨-, h⟩⟩⟩⟩
  · simp only [Grammar.timestamp, reads?_rule, reads?_bind, reads?_pure,
      Option.bind_eq_some_iff] at h
    obtain ⟨⟨lexeme, after⟩, hlexeme, h⟩ := h
    obtain ⟨rfl, -⟩ := Prod.mk.inj (Option.some.inj h)
    exact .timestamp lexeme (text_of_reads?_lexeme timestamp_spells hlexeme)
  · simp only [decimal, reads?_rule, reads?_bind, reads?_pure, Option.bind_eq_some_iff] at h
    obtain ⟨⟨lexeme, after⟩, -, h⟩ := h
    obtain ⟨rfl, -⟩ := Prod.mk.inj (Option.some.inj h)
    exact .decimal lexeme
  · simp only [integer, reads?_rule, reads?_bind, reads?_pure, Option.bind_eq_some_iff] at h
    obtain ⟨⟨lexeme, after⟩, -, h⟩ := h
    obtain ⟨rfl, -⟩ := Prod.mk.inj (Option.some.inj h)
    exact .integer lexeme
  · simp only [boolean, reads?_rule, reads?_bind, reads?_pure, Option.bind_eq_some_iff] at h
    obtain ⟨⟨value, after⟩, -, ⟨_, last⟩, -, h⟩ := h
    obtain ⟨rfl, -⟩ := Prod.mk.inj (Option.some.inj h)
    exact .boolean value
  · cases h

/-- The literals that are no strings, with finite doubles and timestamps that their text denotes
again. -/
inductive Literal.IsScalar : Literal → Prop where
  | int (value : Int64) : IsScalar (.int value)
  | float {value : Float} (h : value.isFinite) : IsScalar (.float value)
  | bool (value : Bool) : IsScalar (.bool value)
  | dateTime {value : Timestamp} (h : value.IsWritten) : IsScalar (.dateTime value)

/-- A literal that is checked has a value. -/
theorem exists_of_checked {α : Type} {kind : LiteralKind} {lexeme : Lexeme} {value : Option α}
    {tree : α → Expr} {expr : Expr} (h : Phrase.checked kind lexeme value tree = .ok expr) :
    ∃ found, value = some found ∧ expr = tree found := by
  cases value with
  | none => cases h
  | some found => exact ⟨found, rfl, (Except.ok.inj h).symm⟩

/-- A double that a literal denotes is finite. -/
theorem is_finite_of_float? {lexeme : Lexeme} {value : Float} (h : lexeme.float? = some value) :
    value.isFinite := by
  simp only [Lexeme.float?, Option.ite_none_right_eq_some, Option.some.injEq] at h
  obtain ⟨hfinite, heq⟩ := h
  rwa [heq] at hfinite

/-- A scalar denotes a scalar. -/
theorem is_scalar_of_to_expr {phrase : Phrase} (hphrase : ScalarPhrase phrase) {expr : Expr}
    (h : phrase.toExpr = .ok expr) :
    ∃ literal : Literal, expr = .literal literal ∧ literal.IsScalar := by
  cases hphrase with
  | integer lexeme =>
      obtain ⟨value, -, rfl⟩ := exists_of_checked h
      exact ⟨.int value, rfl, .int value⟩
  | decimal lexeme =>
      obtain ⟨value, hvalue, rfl⟩ := exists_of_checked h
      exact ⟨.float value, rfl, .float (is_finite_of_float? hvalue)⟩
  | timestamp lexeme shaped =>
      obtain ⟨value, hvalue, rfl⟩ := exists_of_checked h
      obtain ⟨form, hfits, htext⟩ := shaped
      have hform : Timestamp.ofLiteral? form.chars = some value := htext ▸ hvalue
      exact ⟨.dateTime value, rfl, .dateTime (is_written_of_literal? hfits hform)⟩
  | boolean value => exact ⟨.bool value, (Except.ok.inj h).symm, .bool value⟩

/-- A source is parsed to a scalar, or refused. -/
theorem Literal.parse_settles (source : String) :
    Settles Literal.IsScalar (Literal.parse source) := by
  have hrun : Settles ScalarPhrase (wholeLiteral.run source) := by
    refine .of_reads? fun phrase rest hreads => ?_
    simp only [wholeLiteral, reads?_rule, reads?_bind, reads?_pure,
      Option.bind_eq_some_iff] at hreads
    obtain ⟨⟨phrase, after⟩, hscalar, _, -, hphrase⟩ := hreads
    obtain ⟨rfl, -⟩ := Prod.mk.inj (Option.some.inj hphrase)
    exact scalar_phrase_of_reads? hscalar
  rw [Literal.parse_eq]
  refine hrun.bind fun phrase hphrase => ?_
  rw [read_eq]
  refine (Settles.of_tree fun expr hexpr => is_scalar_of_to_expr hphrase hexpr).bind
    fun expr hexpr => ?_
  obtain ⟨literal, rfl, hliteral⟩ := hexpr
  exact .ok hliteral

/-- A literal that takes the whole source is a scalar. -/
theorem is_scalar_of_parse {source : String} {literal : Literal}
    (h : Literal.parse source = .ok literal) : literal.IsScalar := by
  have hsettles := Literal.parse_settles source
  rw [h] at hsettles
  exact hsettles.of_ok

end TextTemplate
