import TextTemplate.Proofs.Grammar.Progress

/-!
# The segments of a template

`segmentation` is what the grammar makes of the characters of a whole template: its segments, or the
goals that failed furthest. Only a block that has been opened can make it fail, and then all that is
reported lies behind the opening (`reach_of_segment`). Therefore what stands in front of a template
as text does not change what is made of the template (`segmentation_of_escaped`,
`segmentation_of_text`).
-/

namespace TextTemplate.Grammar

open TextTemplate.Grammar.Parser

variable {α : Type}

/-! ## Single segments -/

theorem satisfy_of_chars_cons (p : Char → Bool) (c : Char) (cs : List Char) :
    satisfy p (.ofChars (c :: cs)) =
      if p c then ⟨some (c, .ofChars cs), none⟩ else ⟨none, none⟩ := by
  rw [satisfy]
  simp only [Cursor.ofChars, Cursor.next?]
  split
  · rw [cursor_eq_of_chars ⟨cs, _, _⟩]
    rfl
  · rfl

/-- The characters that are asked for are read. -/
theorem chars_of_append (expected rest : List Char) :
    chars expected (.ofChars (expected ++ rest)) = ⟨some ((), .ofChars rest), none⟩ := by
  induction expected with
  | nil => rfl
  | cons c expected ih =>
      rw [chars, andThen, char, List.cons_append, satisfy_of_chars_cons,
        if_pos (beq_self_eq_true c)]
      simp [ih]

/-- Nothing is read where another character comes first. -/
theorem chars_of_ne {expected c : Char} (h : c ≠ expected) (more rest : List Char) :
    chars (expected :: more) (.ofChars (c :: rest)) = ⟨none, none⟩ := by
  rw [chars, andThen, char, satisfy_of_chars_cons, if_neg (by simpa using h)]

/-- A rule whose first part fails in silence reports itself. -/
theorem rule_of_none {α β : Type} {p : Parser α} {c : Cursor} (h : p c = ⟨none, none⟩)
    (goal : Goal) (next : α → Parser β) :
    rule goal (p >>= next) c = ⟨none, some ⟨c.bytesLeft, [goal]⟩⟩ := by
  change rule goal (andThen p next) c = _
  rw [rule, andThen, h]
  rfl

/-- The alternatives for a segment. -/
theorem segment_eq :
    segment = orElse escapedAt
      (orElse expressionBlock (orElse bareExpression (orElse plainText fail))) :=
  rfl

/-- A doubled `@` is a segment. -/
theorem segment_of_escaped (cs : List Char) :
    segment (.ofChars ('@' :: '@' :: cs)) = ⟨some (.text ['@'], .ofChars cs), none⟩ := by
  have hchars : chars ['@', '@'] (.ofChars ('@' :: '@' :: cs)) = ⟨some ((), .ofChars cs), none⟩ :=
    chars_of_append ['@', '@'] cs
  have hescaped : escapedAt (.ofChars ('@' :: '@' :: cs)) =
      ⟨some (.text ['@'], .ofChars cs), none⟩ := by
    change rule .escapedAt (andThen (chars ['@', '@']) fun _ => succeed (Segment.text ['@'])) _ = _
    rw [rule, andThen, hchars]
    rfl
  rw [segment_eq, orElse, hescaped]

/-- Text up to the next `@` is a segment. Before it is read as such, the other alternatives fail at
its beginning. -/
theorem segment_of_text {c : Char} (hc : c ≠ '@') (cs : List Char) :
    segment (.ofChars (c :: cs)) =
      ⟨some (.text (c :: cs.takeWhile (· != '@')), .ofChars (cs.dropWhile (· != '@'))),
        some ⟨byteCount (c :: cs), [.escapedAt, .expressionBlock, .bareExpression]⟩⟩ := by
  have hescaped : escapedAt (.ofChars (c :: cs)) =
      ⟨none, some ⟨byteCount (c :: cs), [.escapedAt]⟩⟩ :=
    rule_of_none (chars_of_ne hc _ _) _ _
  have hblock : expressionBlock (.ofChars (c :: cs)) =
      ⟨none, some ⟨byteCount (c :: cs), [.expressionBlock]⟩⟩ :=
    rule_of_none (chars_of_ne hc _ _) _ _
  have hbare : bareExpression (.ofChars (c :: cs)) =
      ⟨none, some ⟨byteCount (c :: cs), [.bareExpression]⟩⟩ := by
    refine rule_of_none ?_ _ _
    rw [char, satisfy_of_chars_cons, if_neg (by simpa using hc)]
  have hrest : (Cursor.ofChars cs).dropWhile (· != '@') =
      .ofChars (cs.dropWhile (· != '@')) := by
    rw [cursor_eq_of_chars ((Cursor.ofChars cs).dropWhile _), rest_drop_while, rest_of_chars]
  have hplain : plainText (.ofChars (c :: cs)) =
      ⟨some (.text (c :: cs.takeWhile (· != '@')), .ofChars (cs.dropWhile (· != '@'))), none⟩ := by
    have hfirst : satisfy (· != '@') (.ofChars (c :: cs)) = ⟨some (c, .ofChars cs), none⟩ := by
      rw [satisfy_of_chars_cons, if_pos (by simpa using hc)]
    have hrun : takeWhile1 (· != '@') (.ofChars (c :: cs)) =
        ⟨some (c :: cs.takeWhile (· != '@'), .ofChars (cs.dropWhile (· != '@'))), none⟩ := by
      rw [takeWhile1, andThen, hfirst, ← hrest]
      rfl
    change rule .plainText (andThen (orElse (takeWhile1 (· != '@')) _) fun text =>
      succeed (Segment.text text)) _ = _
    rw [rule, andThen, orElse, hrun]
    rfl
  rw [segment_eq, orElse, hescaped, orElse, hblock, orElse, hbare, orElse, hplain]
  simp [Attempts.merge]

/-- Only an opened block can fail to be a segment. -/
theorem opens_of_segment_eq_none {c : Char} {cs : List Char} (h : segment.reads? (c :: cs) = none) :
    ∃ more, c :: cs = '@' :: '(' :: more := by
  have hplain : plainText.reads? (c :: cs) = none := by
    rw [segment, reads?_one_of_cons, reads?_one_of_cons, reads?_one_of_cons,
      reads?_one_of_cons] at h
    simp only [Option.or_eq_none_iff] at h
    exact h.2.2.2.1
  by_cases hc : c = '@'
  · subst hc
    cases cs with
    | nil => simp [plainText, reads?_absent] at hplain
    | cons d cs =>
        by_cases hd : d = '('
        · exact ⟨cs, by rw [hd]⟩
        · simp [plainText, reads?_absent, hd] at hplain
  · simp [plainText, hc] at hplain

/-- Wherever a segment fails in front of something, goals are reported further on. -/
theorem reach_of_segment {c : Cursor} (h : (segment c).outcome = none) (hrest : c.rest ≠ []) :
    ∃ bytesLeft, bytesLeft < c.bytesLeft ∧ Attempts.Reach bytesLeft (segment c).attempts := by
  obtain ⟨first, more, hfirst⟩ : ∃ first more, c.rest = first :: more :=
    List.exists_cons_of_ne_nil hrest
  have hnone : segment.reads? (first :: more) = none := by
    rw [reads?, ← hfirst, ← cursor_eq_of_chars c, h, Option.map_none]
  obtain ⟨more, hopen⟩ := opens_of_segment_eq_none hnone
  obtain rfl : c = .ofChars ('@' :: '(' :: more) := by
    rw [cursor_eq_of_chars c, hfirst, hopen]
  -- Behind the opening comes an expression, which always reports something.
  have hless : byteCount more < byteCount ('@' :: '(' :: more) := by
    simp only [byteCount]
    have hone : 0 < '@'.utf8Size := '@'.utf8Size_pos
    omega
  refine ⟨byteCount more, hless, ?_⟩
  have hblock : Attempts.Reach (byteCount more)
      (expressionBlock (.ofChars ('@' :: '(' :: more))).attempts := by
    have hopening : chars ['@', '('] (.ofChars ('@' :: '(' :: more)) =
        ⟨some ((), .ofChars more), none⟩ :=
      chars_of_append ['@', '('] more
    refine reach_of_rule_body ?_ _
    rw [bind_of_reply hopening, none_merge, ← bytes_left_of_chars more]
    dsimp only
    have hblanks : blanks.Advances := fun _ => StaysIn.blanks
    exact blanks_explain.bind_reports hblanks (fun _ => expression_reports.bind) (.ofChars more)
  rw [segment_eq] at h ⊢
  obtain ⟨-, h, hattempts⟩ := or_else_of_none h
  obtain ⟨-, -, hlater⟩ := or_else_of_none h
  rw [hattempts, hlater]
  exact hblock.merge_left.merge_right

/-- A segment takes a character at least. -/
theorem segment_consumes : segment.Consumes := by
  have hchars : ∀ first more, (chars (first :: more)).Consumes := fun _ more =>
    Consumes.bind (Consumes.satisfy _) fun _ _ => StaysIn.chars more
  have hescaped : escapedAt.Consumes :=
    ((hchars _ _).bind fun _ _ => StaysIn.pure trivial).rule _
  have hblock : expressionBlock.Consumes := by
    refine ((hchars _ _).bind fun _ source => ?_).rule _
    exact StaysIn.blanks.bind fun _ _ => (expression_stays Phrase.is_in_inherited).bind fun _ _ =>
      StaysIn.blanks.bind fun _ _ => (StaysIn.char _).bind fun _ _ => StaysIn.pure trivial
  have hbare : bareExpression.Consumes := by
    refine ((Consumes.satisfy _).bind fun _ source => ?_).rule _
    have hnested : expression.StaysIn source (Phrase.IsIn source) :=
      expression_stays Phrase.is_in_inherited
    exact ((function_call_stays Phrase.is_in_inherited hnested).or_else
      (atom_stays Phrase.is_in_inherited)).bind fun _ _ =>
        (suffix_stays hnested).many.bind fun _ _ => StaysIn.pure trivial
  have hplain : plainText.Consumes := by
    refine ((Consumes.or_else ?_ ?_).bind fun _ _ => StaysIn.pure trivial).rule _
    · exact (Consumes.satisfy _).bind fun _ _ =>
        (StaysIn.take_while _).bind fun _ _ => StaysIn.succeed trivial
    · exact (Consumes.satisfy _).bind fun _ _ =>
        (StaysIn.absent _).bind fun _ _ => StaysIn.pure trivial
  have hfail : (fail : Parser Segment).Consumes := fun _ _ _ h => nomatch h
  rw [segment_eq]
  exact hescaped.or_else (hblock.or_else (hbare.or_else (hplain.or_else hfail)))

/-! ## Whole templates -/

/-- What the grammar makes of the characters of a whole template: its segments, or the goals that
failed furthest. -/
def segmentation (cs : List Char) : Except Attempts (List Segment) :=
  match wholeTemplate (.ofChars cs) with
  | ⟨some (segments, _), _⟩ => .ok segments
  | ⟨none, some attempts⟩ => .error attempts
  | ⟨none, none⟩ => .error ⟨byteCount cs, []⟩

/-- A whole template is read by its segmentation. -/
theorem run_whole_template (source : String) :
    wholeTemplate.run source = (segmentation source.toList).mapError fun attempts =>
      Attempts.toError source (some attempts) := by
  rw [Parser.run, segmentation]
  cases wholeTemplate (.ofChars source.toList) with
  | mk outcome attempts =>
      cases outcome with
      | some result => rfl
      | none => cases attempts <;> rfl

/-- The last place of a repetition lies in what is left of the source. -/
theorem Repeats.suffix {p : Parser α} (hp : p.Advances) {c last : Cursor} {values : List α}
    {attempts : Option Attempts} (h : Repeats p c values last attempts) : last.rest <:+ c.rest := by
  induction h with
  | stop => exact List.suffix_refl _
  | step h _ ih => exact ih.trans (hp.suffix (reads?_of_reply h))

/-- Where segments end in front of something, goals are reported further on. -/
theorem reach_of_repeats {c last : Cursor} {segments : List Segment}
    {attempts : Option Attempts} (h : Repeats segment c segments last attempts)
    (hlast : last.rest ≠ []) :
    ∃ bytesLeft, bytesLeft < last.bytesLeft ∧ Attempts.Reach bytesLeft attempts := by
  induction h with
  | stop h =>
      have hreach := reach_of_segment (by rw [h]) hlast
      rwa [h] at hreach
  | step _ _ ih =>
      obtain ⟨bytesLeft, hless, hreach⟩ := ih hlast
      exact ⟨bytesLeft, hless, hreach.merge_right⟩

/-- The end of the source is a goal of its own. -/
theorem the_end_eq (c : Cursor) :
    theEnd c = if c.rest = [] then ⟨some ((), c), none⟩
      else ⟨none, some ⟨c.bytesLeft, [.endOfInput]⟩⟩ := by
  rw [theEnd, rule, endOfInput]
  cases c.rest <;> rfl

/-- If nothing is left behind the segments, they are all there is. -/
theorem segmentation_of_nil {cs : List Char} {segments : List Segment} {last : Cursor}
    {attempts : Option Attempts} (hmany : many segment (.ofChars cs) =
      ⟨some (segments, last), attempts⟩) (hlast : last.rest = []) :
    segmentation cs = .ok segments := by
  have hwhole : wholeTemplate (.ofChars cs) = ⟨some (segments, last), attempts⟩ := by
    change rule .template (andThen (many segment) fun segments =>
      andThen theEnd fun _ => succeed segments) _ = _
    rw [rule, andThen, hmany]
    simp [andThen, the_end_eq, hlast, succeed]
  rw [segmentation, hwhole]

/-- If something is left behind the segments, what is reported on the way is the error. -/
theorem segmentation_of_cons {cs : List Char} {segments : List Segment} {last : Cursor}
    {attempts : Option Attempts} (hmany : many segment (.ofChars cs) =
      ⟨some (segments, last), attempts⟩)
    (hrepeats : Repeats segment (.ofChars cs) segments last attempts) (hlast : last.rest ≠ []) :
    ∃ furthest, attempts = some furthest ∧ furthest.bytesLeft < byteCount cs ∧
      segmentation cs = .error furthest := by
  obtain ⟨bytesLeft, hless, furthest, rfl, hfurthest⟩ := reach_of_repeats hrepeats hlast
  have hle : last.bytesLeft ≤ byteCount cs := by
    exact (is_place_of_cursor (hrepeats.suffix segment_advances)).le
  have hwhole : wholeTemplate (.ofChars cs) = ⟨none, some furthest⟩ := by
    change rule .template (andThen (many segment) fun segments =>
      andThen theEnd fun _ => succeed segments) _ = _
    rw [rule, andThen, hmany]
    -- Neither the end of the source nor the template as a whole is a goal further on.
    have hend : ¬ last.bytesLeft < furthest.bytesLeft := by omega
    have hstart : furthest.bytesLeft < byteCount cs := by omega
    have hbefore : furthest.bytesLeft < last.bytesLeft := by omega
    simp [andThen, the_end_eq, hlast, Attempts.merge, Attempts.ofRule, hend, hstart, hbefore]
  exact ⟨furthest, rfl, by omega, by rw [segmentation, hwhole]⟩

/-- The goals that fail a template are reported at a place in it. -/
theorem is_place_of_segmentation {cs : List Char} {attempts : Attempts}
    (h : segmentation cs = .error attempts) : IsPlace cs attempts.bytesLeft := by
  have hattempts := (whole_template_stays Phrase.is_in_inherited (.ofChars cs)
    (List.suffix_refl _)).attempts
  rw [segmentation] at h
  split at h
  · cases h
  · next heq =>
      cases h
      rw [heq] at hattempts
      exact hattempts
  · cases h
    exact ⟨cs, List.suffix_refl _, rfl⟩

/-- What a whole template is read with holds of its segments. -/
theorem of_segmentation {cs : List Char} {Q : List Segment → Prop}
    (hQ : wholeTemplate.StaysIn cs Q) {segments : List Segment}
    (h : segmentation cs = .ok segments) : Q segments := by
  have houtcome := (hQ (.ofChars cs) (List.suffix_refl _)).outcome
  rw [segmentation] at h
  split at h
  · next found last attempts heq =>
      obtain rfl := Except.ok.inj h
      exact (houtcome found last (by rw [heq])).2
  · cases h
  · cases h

/-- What the grammar hands on holds of the segments of the template. -/
theorem holds_of_segmentation {cs : List Char} {Q : Phrase → Prop} (hQ : Phrase.Inherited cs Q)
    {segments : List Segment} (h : segmentation cs = .ok segments) :
    ∀ segment ∈ segments, segment.Holds Q :=
  of_segmentation (whole_template_stays hQ) h

/-- Doubling an `@` in front of a template puts an `@` in front of its segments. -/
theorem segmentation_of_escaped (cs : List Char) :
    segmentation ('@' :: '@' :: cs) = (segmentation cs).map (.text ['@'] :: ·) := by
  obtain ⟨segments, last, attempts, hmany, hrepeats⟩ :=
    exists_repeats segment_consumes (.ofChars cs)
  have hmore := many_of_some segment_consumes (segment_of_escaped cs) hmany
  rw [none_merge] at hmore
  by_cases hlast : last.rest = []
  · rw [segmentation_of_nil hmany hlast, segmentation_of_nil hmore hlast]
    rfl
  · have hsteps := Repeats.step (segment_of_escaped cs) hrepeats
    rw [none_merge] at hsteps
    obtain ⟨furthest, rfl, -, herror⟩ := segmentation_of_cons hmany hrepeats hlast
    obtain ⟨_, heq, -, hlater⟩ := segmentation_of_cons hmore hsteps hlast
    cases heq
    rw [herror, hlater]
    rfl

/-- Text in front of a template is put in front of its segments. -/
theorem segmentation_of_text {c : Char} (hc : c ≠ '@') (cs : List Char) :
    segmentation (c :: cs) = (segmentation (cs.dropWhile (· != '@'))).map
      (.text (c :: cs.takeWhile (· != '@')) :: ·) := by
  obtain ⟨segments, last, attempts, hmany, hrepeats⟩ :=
    exists_repeats segment_consumes (.ofChars (cs.dropWhile (· != '@')))
  have hmore := many_of_some segment_consumes (segment_of_text hc cs) hmany
  by_cases hlast : last.rest = []
  · rw [segmentation_of_nil hmany hlast, segmentation_of_nil hmore hlast]
    rfl
  · have hsteps := Repeats.step (segment_of_text hc cs) hrepeats
    obtain ⟨furthest, rfl, hless, herror⟩ := segmentation_of_cons hmany hrepeats hlast
    obtain ⟨_, heq, -, hlater⟩ := segmentation_of_cons hmore hsteps hlast
    -- What is reported at the beginning of the text does not come as far.
    have hshort : byteCount (cs.dropWhile (· != '@')) ≤ byteCount cs :=
      IsPlace.le ⟨_, List.dropWhile_suffix _, rfl⟩
    have hbefore : furthest.bytesLeft < byteCount (c :: cs) := by
      rw [byteCount]
      omega
    rw [Attempts.merge, if_pos hbefore] at heq
    cases heq
    rw [herror, hlater]
    rfl

end TextTemplate.Grammar
