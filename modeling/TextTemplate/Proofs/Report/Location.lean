import Mathlib
import TextTemplate.Engine.Basic
import TextTemplate.Proofs.Expr.Spans
import TextTemplate.Proofs.Report.Lines

/-!
# Shown locations

A drawing shows where its diagnostic begins as a line and a column (`ShowsLocation`). It takes the
beginning of the diagnostic for a number of characters (`shows_location_draw_iff`), but the errors
of the parser count bytes. Hence the location that is shown for a template that does not compile is
the one of the error if and only if every character in front of the error takes a single byte,
unless the error is at the end of a source that ends with a line break
(`Engine.shows_place_of_error_iff`).
-/

namespace TextTemplate

namespace Report

open Grammar (Stops)

/-! ## The location in the text of a drawing -/

/-- The text shows the location as the one of the diagnostic: in the upper edge of the frame, below
the first line. -/
def ShowsLocation (diagnostic : Diagnostic) (text : String) (location : Nat × Nat) : Prop :=
  ∃ width rest, text = print false (headline diagnostic ++ upperEdge width location) ++ rest

theorem print_append (color : Bool) (first second : List Piece) :
    print color (first ++ second) = print color first ++ print color second := by
  rw [print, print, print, List.map_append, String.join_append]

/-- The upper edge has the line and the column between other characters. -/
theorem exists_text_of_upper_edge (width : Nat) (location : Nat × Nat) :
    ∃ rest, (print false (upperEdge width location)).toList =
      List.replicate (width + 2) ' ' ++ '╭' :: ("─[ <template>:".toList ++
        (Number.decimalDigits location.1 ++
          ':' :: (Number.decimalDigits location.2 ++ ' ' :: rest))) := by
  refine ⟨(print false [inked .frame "]", newline, blanks (width + 2), inked .frame "│",
    newline]).toList, ?_⟩
  simp [upperEdge, print, Piece.print, plain, inked, blanks, newline, locationText, Number.natText]

/-- What stands in front of the first character without the property is determined. -/
theorem eq_of_append_cons {p : Char → Bool} {first other rest rest' : List Char} {c d : Char}
    (hfirst : ∀ x ∈ first, p x) (hc : p c = false) (hother : ∀ x ∈ other, p x) (hd : p d = false)
    (h : first ++ c :: rest = other ++ d :: rest') : first = other ∧ rest = rest' := by
  have htake := congrArg (List.takeWhile p) h
  rw [(Stops.cons hc rest).take_while_append hfirst,
    (Stops.cons hd rest').take_while_append hother] at htake
  subst htake
  exact ⟨rfl, (List.cons.inj (List.append_cancel_left h)).2⟩

/-- Numbers with a character behind them that is no digit are determined by their text. -/
theorem eq_of_digits {number other : Nat} {rest rest' : List Char} {c d : Char}
    (hc : c.isDigit = false) (hd : d.isDigit = false)
    (h : Number.decimalDigits number ++ c :: rest = Number.decimalDigits other ++ d :: rest') :
    number = other ∧ rest = rest' := by
  obtain ⟨hdigits, hrest⟩ := eq_of_append_cons Number.is_digit_of_mem_decimal_digits hc
    Number.is_digit_of_mem_decimal_digits hd h
  refine ⟨?_, hrest⟩
  rw [← Number.of_digits_decimal_digits number, hdigits, Number.of_digits_decimal_digits]

/-- A text shows at most one location for a diagnostic. -/
theorem ShowsLocation.unique {diagnostic : Diagnostic} {text : String} {first second : Nat × Nat}
    (h : ShowsLocation diagnostic text first) (h' : ShowsLocation diagnostic text second) :
    first = second := by
  obtain ⟨width, rest, rfl⟩ := h
  obtain ⟨width', rest', htext⟩ := h'
  obtain ⟨edge, hedge⟩ := exists_text_of_upper_edge width first
  obtain ⟨edge', hedge'⟩ := exists_text_of_upper_edge width' second
  have hchars := congrArg String.toList htext
  simp only [print_append, String.toList_append, List.append_assoc, hedge, hedge',
    List.cons_append, List.append_cancel_left_eq] at hchars
  have hblank : ∀ count, ∀ c ∈ List.replicate count ' ', (c == ' ') = true := by
    intro count c hc
    rw [List.eq_of_mem_replicate hc]
    rfl
  obtain ⟨-, hchars⟩ := eq_of_append_cons (hblank _) rfl (hblank _) rfl hchars
  obtain ⟨hline, hchars⟩ := eq_of_digits rfl rfl (List.append_cancel_left hchars)
  obtain ⟨hcolumn, -⟩ := eq_of_digits rfl rfl hchars
  exact Prod.ext hline hcolumn

/-- A label that has both its ends in the source begins where the lines of the source tell. -/
theorem exists_label (lines : List Line) (length : Nat) {span : Span} (message : String)
    (h : span.start ≤ length ∧ span.stop - 1 ≤ length) :
    ∃ label, Label.of? lines length span message = some label ∧
      label.location lines = locationIn lines span.start := by
  have hlabel : ∃ last, Label.of? lines length span message =
      some ⟨span.start, span.stop, (lines.filter (·.offset ≤ span.start)).length - 1, last,
        message⟩ := by
    unfold Label.of? lineAt?
    by_cases hempty : span.stop ≤ span.start <;> simp [h.1, h.2, hempty]
  obtain ⟨last, hlabel⟩ := hlabel
  refine ⟨_, hlabel, ?_⟩
  rw [Label.location, locationIn]
  dsimp only
  cases lines[(lines.filter (·.offset ≤ span.start)).length - 1]? <;> rfl

/-- There is no label with an end outside the source. -/
theorem label_eq_none (lines : List Line) (length : Nat) {span : Span} (message : String)
    (h : ¬ (span.start ≤ length ∧ span.stop - 1 ≤ length)) :
    Label.of? lines length span message = none := by
  unfold Label.of? lineAt?
  by_cases hstart : span.start ≤ length
  · have hstop : ¬ span.stop - 1 ≤ length := fun hstop => h ⟨hstart, hstop⟩
    have hlonger : ¬ span.stop ≤ span.start := by omega
    simp [hstart, hstop, hlonger]
  · simp [hstart]

/-- A drawing shows a location if and only if its label is in the source, and then the one that the
lines of the source give to the beginning of the label. -/
theorem shows_location_draw_iff (source : List Char) (diagnostic : Diagnostic)
    (location : Nat × Nat) :
    ShowsLocation diagnostic (print false (draw source diagnostic)) location ↔
      (diagnostic.span.start ≤ source.length ∧ diagnostic.span.stop - 1 ≤ source.length) ∧
        location = locationIn (linesOf source) diagnostic.span.start := by
  by_cases hspan : diagnostic.span.start ≤ source.length ∧ diagnostic.span.stop - 1 ≤ source.length
  · obtain ⟨label, hlabel, hlocation⟩ :=
      exists_label (linesOf source) source.length diagnostic.message hspan
    have hshows : ShowsLocation diagnostic (print false (draw source diagnostic))
        (locationIn (linesOf source) diagnostic.span.start) := by
      refine ⟨(Number.decimalDigits (label.lastLine + 1)).length, ?_⟩
      rw [draw]
      dsimp only
      rw [hlabel]
      dsimp only
      rw [← hlocation]
      simp only [print_append, String.append_assoc]
      exact ⟨_, rfl⟩
    exact ⟨fun h => ⟨hspan, h.unique hshows⟩, fun h => h.2 ▸ hshows⟩
  · refine iff_of_false ?_ fun h => hspan h.1
    rintro ⟨width, rest, htext⟩
    obtain ⟨edge, hedge⟩ := exists_text_of_upper_edge width location
    rw [draw] at htext
    dsimp only at htext
    rw [label_eq_none _ _ _ hspan, List.append_nil] at htext
    have hchars := congrArg String.toList htext
    simp [print_append, hedge] at hchars

end Report

/-! ## Where errors are -/

namespace Grammar

/-- Characters take as many bytes as they are if and only if each of them takes a single one. -/
theorem byte_count_eq_length_iff (cs : List Char) :
    byteCount cs = cs.length ↔ ∀ c ∈ cs, c.utf8Size = 1 := by
  induction cs with
  | nil => exact iff_of_true rfl (List.forall_mem_nil _)
  | cons c cs ih =>
      have hone : 0 < c.utf8Size := c.utf8Size_pos
      have hle : cs.length ≤ byteCount cs := length_le_byte_count cs
      rw [byteCount, List.length_cons, List.forall_mem_cons, ← ih]
      omega

/-- The span of a failure takes a stretch of the source, made of characters of a single byte. -/
theorem exists_stretch_of_failure {failure : Failure} {source : String}
    (h : failure.IsIn source.toList) :
    ∃ before text rest, source.toList = before ++ (text ++ rest) ∧
      (∀ c ∈ text, c.utf8Size = 1) ∧
      (failure.toError source).span = ⟨byteCount before, byteCount before + byteCount text⟩ := by
  cases failure with
  | unread attempts =>
      obtain ⟨rest, ⟨before, hsource⟩, hplace⟩ := h
      refine ⟨before, [], rest, hsource.symm, List.forall_mem_nil _, ?_⟩
      rw [Failure.toError, Attempts.toError]
      dsimp only
      rw [hplace, ← hsource, byte_count_append, Nat.add_sub_cancel]
      rfl
  | literal bad =>
      obtain ⟨kind, lexeme⟩ := bad
      cases kind with
      | captureIndex =>
          have hwritten : Lexeme.IsIn source.toList { lexeme with text := '&' :: lexeme.text } :=
            h.written
          obtain ⟨before, rest, hsource, hspan⟩ := hwritten.exists_stretch
          exact ⟨before, _, rest, hsource, List.forall_mem_cons.mpr ⟨rfl, h.shaped.single⟩, hspan⟩
      | _ =>
          obtain ⟨before, rest, hsource, hspan⟩ := Lexeme.IsIn.exists_stretch h.written
          exact ⟨before, _, rest, hsource, h.shaped.single, hspan⟩

end Grammar

open Report

/-- An engine does not compile a source if the parser fails on it. -/
theorem Engine.exists_failure_of_compile {engine : Engine} {source : String} {error : EngineError}
    (h : engine.compile source = .error error) :
    ∃ failure, Grammar.readTemplate source.toList = .error failure ∧
      error = .ofParseError (failure.toError source) := by
  unfold Engine.compile at h
  rw [Grammar.parse_eq_read_template source] at h
  generalize Grammar.readTemplate source.toList = result at *
  cases result with
  | ok template => cases h
  | error failure => exact ⟨failure, rfl, (Except.error.inj h).symm⟩

/-- A template that does not compile has a single diagnostic, about a stretch of the source which is
made of characters of a single byte. -/
theorem Engine.exists_stretch_of_compile {engine : Engine} {source : String} {error : EngineError}
    (h : engine.compile source = .error error) :
    ∃ diagnostic before text rest, error = .compilation [diagnostic] source ∧
      source.toList = before ++ (text ++ rest) ∧ (∀ c ∈ text, c.utf8Size = 1) ∧
      diagnostic.span = ⟨Grammar.byteCount before,
        Grammar.byteCount before + Grammar.byteCount text⟩ := by
  obtain ⟨failure, hread, rfl⟩ := exists_failure_of_compile h
  obtain ⟨before, text, rest, hsource, hsingle, hspan⟩ :=
    Grammar.exists_stretch_of_failure (Grammar.is_in_of_read_template hread)
  have hkept : (failure.toError source).source = source := by cases failure <;> rfl
  have herror : EngineError.ofParseError (failure.toError source) =
      .compilation [(failure.toError source).toDiagnostic] source := by
    rw [EngineError.ofParseError, hkept]
  exact ⟨_, before, text, rest, herror, hsource, hsingle, hspan⟩

/-- A template that does not compile has a single diagnostic, which begins behind some characters of
the source. The text without colours shows the line and the column of that place if and only if
these characters take a single byte each and the place is not the end of a source that ends with a
line break. -/
theorem Engine.shows_place_of_error_iff {engine : Engine} {source : String} {error : EngineError}
    (h : engine.compile source = .error error) :
    ∃ diagnostic before rest, error = .compilation [diagnostic] source ∧
      source.toList = before ++ rest ∧ diagnostic.span.start = Grammar.byteCount before ∧
      (ShowsLocation diagnostic (print false error.draw) (locationAt source.toList before.length) ↔
        (∀ c ∈ before, c.utf8Size = 1) ∧
          ¬ (rest = [] ∧ ∃ c ∈ before.getLast?, endsLine c)) := by
  obtain ⟨diagnostic, before, text, rest, rfl, hsource, hsingle, hspan⟩ :=
    exists_stretch_of_compile h
  refine ⟨diagnostic, before, text ++ rest, rfl, hsource, by rw [hspan], ?_⟩
  have hdraw : (EngineError.compilation [diagnostic] source).draw =
      draw source.toList diagnostic := List.append_nil _
  rw [hdraw, shows_location_draw_iff, hspan]
  dsimp only
  have hlength : source.toList.length = before.length + (text.length + rest.length) := by
    rw [hsource, List.length_append, List.length_append]
  rw [← Grammar.byte_count_eq_length_iff, ← location_in_lines_of_iff, ← hsource]
  constructor
  · rintro ⟨⟨hstart, -⟩, hlocation⟩
    -- Bytes that are taken for characters are too many of them, if anything.
    have hbytes : Grammar.byteCount before = before.length := by
      refine (Nat.eq_or_lt_of_le (Grammar.length_le_byte_count before)).elim Eq.symm fun hlt => ?_
      exact absurd hlocation (precedes_location_in hlt hstart).ne
    rw [hbytes] at hlocation
    exact ⟨hbytes, hlocation.symm⟩
  · rintro ⟨hbytes, hlocation⟩
    rw [hbytes, (Grammar.byte_count_eq_length_iff text).mpr hsingle]
    exact ⟨⟨by omega, by omega⟩, hlocation.symm⟩

/-- Behind a letter that takes a single byte the right location is shown, and behind one that takes
two it is not. -/
theorem Engine.shows_place_of_error_behind_letter :
    let engine : Engine := ⟨fun _ => .standard, ⟨.standard, []⟩, {}⟩
    let error (source : String) (start : Nat) : ParseError :=
      ⟨.unexpectedToken "expression" "')'", source, ⟨start, start⟩⟩
    let shows (source : String) (start : Nat) : Prop :=
      ShowsLocation (error source start).toDiagnostic
        (print false (EngineError.ofParseError (error source start)).draw) (1, 5)
    (engine.compile "e @()" = .error (.ofParseError (error "e @()" 4)) ∧ shows "e @()" 4) ∧
      engine.compile "é @()" = .error (.ofParseError (error "é @()" 5)) ∧ ¬ shows "é @()" 5 := by
  intro engine error shows
  have hcompile : ∀ source start, Template.parse source = .error (error source start) →
      engine.compile source = .error (.ofParseError (error source start)) := by
    intro source start hparse
    unfold Engine.compile
    rw [hparse]
  have hascii := hcompile "e @()" 4 (by cbv)
  have haccent := hcompile "é @()" 5 (by cbv)
  -- In both sources, the bytes in front of the error tell which characters stand there.
  refine ⟨⟨hascii, ?_⟩, haccent, fun hshows => ?_⟩
  · obtain ⟨diagnostic, before, rest, herror, hsource, hstart, hiff⟩ :=
      shows_place_of_error_iff hascii
    obtain rfl := List.head_eq_of_cons_eq (EngineError.compilation.inj herror).1
    obtain rfl : before = ['e', ' ', '@', '('] :=
      (Grammar.take_bytes_append before rest).symm.trans (by rw [← hsource, ← hstart]; rfl)
    have hrest : rest ≠ [] := by
      rintro rfl
      cases hsource
    have hsingle : ∀ c ∈ ['e', ' ', '@', '('], c.utf8Size = 1 :=
      (Grammar.byte_count_eq_length_iff _).mp rfl
    exact hiff.mpr ⟨hsingle, fun hend => hrest hend.1⟩
  · obtain ⟨diagnostic, before, rest, herror, hsource, hstart, hiff⟩ :=
      shows_place_of_error_iff haccent
    obtain rfl := List.head_eq_of_cons_eq (EngineError.compilation.inj herror).1
    obtain rfl : before = ['é', ' ', '@', '('] :=
      (Grammar.take_bytes_append before rest).symm.trans (by rw [← hsource, ← hstart]; rfl)
    exact absurd ((hiff.mp hshows).1 'é' List.mem_cons_self) (by decide)

end TextTemplate
