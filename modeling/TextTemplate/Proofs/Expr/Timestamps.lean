import TextTemplate.Proofs.Expr.Scalars

/-!
# Timestamp literals

A timestamp literal may leave out the fraction, the seconds and the offset, and an offset may be a
letter or digits with or without a colon. Each form is parsed to the instant that calendar, clock
and offset say, except the one that has a numeric offset but no seconds, which is refused
(`Literal.parse_timestamp_form`).
-/

namespace TextTemplate

namespace Literal

open TextTemplate.Grammar

/-- A timestamp of any form is parsed to the instant that calendar, clock and offset say, unless its
offset has digits and its seconds are missing: then it is refused as a literal without a value. -/
theorem parse_timestamp_form {form : Time.TimestampForm} (h : form.IsReal) :
    Literal.parse form.text =
      if form.isAdmitted then .ok (.dateTime form.instant)
      else .error ⟨.invalidLiteral .timestamp form.text, form.text, ⟨0, byteCount form.chars⟩⟩ := by
  have hscalar : scalar.reads? form.text.toList =
      some (.timestamp ⟨form.chars, byteCount form.chars, 0⟩, []) := by
    rw [Time.TimestampForm.text, String.toList_ofList]
    simp [scalar, reads?_timestamp_form h.fits]
  have hspan : Lexeme.span form.text ⟨form.chars, byteCount form.chars, 0⟩ =
      ⟨0, byteCount form.chars⟩ := by
    rw [Lexeme.span, Time.TimestampForm.text, String.toList_ofList, Nat.sub_self, Nat.sub_zero]
  rw [parse_literal_of_scalar hscalar, Phrase.read, Phrase.toExpr, Lexeme.timestamp?,
    form.of_literal?_of_is_real h]
  cases form.isAdmitted with
  | true => rfl
  | false =>
      show Except.error (BadLiteral.toError form.text _) = _
      rw [BadLiteral.toError, hspan]
      rfl

/-- Of a fraction nine digits count, and the offset needs no colon; but with an offset in digits the
seconds may not be missing. -/
theorem parse_evening_with_and_without_seconds :
    let cutOff : Time.TimestampForm :=
      ⟨2020, 12, 13, 23, 34, some (45, "1234567899".toList), .numeric true 7 30 false⟩
    let bare : Time.TimestampForm := ⟨2020, 12, 13, 23, 34, none, .numeric false 2 0 true⟩
    cutOff.text = "2020-12-13T23:34:45.1234567899-0730" ∧
      Literal.parse cutOff.text = .ok (.dateTime ⟨1607929485, 123456789, -27000⟩) ∧
      bare.text = "2020-12-13T23:34+02:00" ∧
      Literal.parse bare.text =
        .error ⟨.invalidLiteral .timestamp bare.text, bare.text, ⟨0, 22⟩⟩ := by
  intro cutOff bare
  have hcutOff : cutOff.IsReal :=
    ⟨by decide, by decide, by decide, by decide, by decide, List.all_eq_true.mp rfl, by decide⟩
  have hbare : bare.IsReal :=
    ⟨by decide, by decide, by decide, by decide, by decide, nofun, by decide⟩
  have hinstant : cutOff.instant = ⟨1607929485, 123456789, -27000⟩ := by
    rw [Time.TimestampForm.instant, ← Time.Date.day_number_eq_count hcutOff.date]
    decide
  have hplace : byteCount bare.chars = 22 := by decide
  have hparse := parse_timestamp_form hcutOff
  have hrefuse := parse_timestamp_form hbare
  rw [hinstant] at hparse
  rw [hplace] at hrefuse
  exact ⟨by decide, hparse, by decide, hrefuse⟩

end Literal

end TextTemplate
