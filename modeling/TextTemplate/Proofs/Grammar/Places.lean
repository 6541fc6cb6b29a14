import TextTemplate.Proofs.Grammar.Spelling

/-!
# Where parsers look

A parser that is run at a place in a source neither leaves the source nor looks back: the place
where it stops and the places of the goals that it reports lie in what is left of the source
(`Parser.StaysIn`). Each combinator keeps to the source if its parts do. Since only what is left
counts, what stands in front of a place has no influence on what is read and reported there.
-/

namespace TextTemplate.Grammar

/-- There is a place in the source with that many bytes left. -/
def IsPlace (source : List Char) (bytesLeft : Nat) : Prop :=
  ∃ rest, rest <:+ source ∧ bytesLeft = byteCount rest

/-- No more bytes are left at a place in the source than the source has. -/
theorem IsPlace.le {source : List Char} {bytesLeft : Nat} (h : IsPlace source bytesLeft) :
    bytesLeft ≤ byteCount source := by
  obtain ⟨rest, ⟨first, rfl⟩, rfl⟩ := h
  rw [byte_count_append]
  exact Nat.le_add_left _ _

/-- The goals are reported at a place in the source. -/
def Attempts.StayIn (source : List Char) : Option Attempts → Prop
  | none => True
  | some attempts => IsPlace source attempts.bytesLeft

variable {source : List Char} {α β : Type} {P Q : α → Prop} {R : β → Prop}

namespace Attempts.StayIn

/-- Of attempts in the source, the ones that came further are in the source. -/
theorem merge {earlier later : Option Attempts} (hearlier : StayIn source earlier)
    (hlater : StayIn source later) : StayIn source (Attempts.merge earlier later) := by
  cases earlier with
  | none => exact hlater
  | some earlier =>
      cases later with
      | none => exact hearlier
      | some later =>
          rw [Attempts.merge]
          split
          · exact hlater
          · split <;> exact hearlier

/-- What is reported in what is left of a source is reported in the source. -/
theorem trans {rest : List Char} {attempts : Option Attempts} (h : StayIn rest attempts)
    (hrest : rest <:+ source) : StayIn source attempts := by
  cases attempts with
  | none => trivial
  | some attempts =>
      obtain ⟨place, hplace, hbytes⟩ := h
      exact ⟨place, hplace.trans hrest, hbytes⟩

/-- A rule that begins in the source fails in the source. -/
theorem of_rule {goal : Goal} {bytesLeft : Nat} (hstart : IsPlace source bytesLeft)
    {attempts : Option Attempts} (h : StayIn source attempts) :
    StayIn source (Attempts.ofRule goal bytesLeft attempts) := by
  cases attempts with
  | none => exact hstart
  | some inner =>
      rw [Attempts.ofRule]
      split
      · exact h
      · exact hstart

end Attempts.StayIn

/-- The goals are reported in the source, and if something is read, it satisfies `Q` and the reading
stops in the source. -/
structure Reply.StaysIn (source : List Char) (Q : α → Prop) (reply : Reply α) : Prop where
  attempts : Attempts.StayIn source reply.attempts
  outcome : ∀ value after, reply.outcome = some (value, after) → after.rest <:+ source ∧ Q value

/-- Where nothing is read, only the goals count. -/
theorem Reply.StaysIn.of_none {attempts : Option Attempts} (h : Attempts.StayIn source attempts) :
    Reply.StaysIn source Q ⟨none, attempts⟩ :=
  ⟨h, fun _ _ heq => by cases heq⟩

/-- Wherever the parser is run in the source, it stays in the source and reads something with
`Q`. -/
def Parser.StaysIn (source : List Char) (Q : α → Prop) (p : Parser α) : Prop :=
  ∀ c : Cursor, c.rest <:+ source → (p c).StaysIn source Q

/-- The parser stays in every source, whatever it reads. -/
def Parser.Advances (p : Parser α) : Prop :=
  ∀ source, p.StaysIn source fun _ => True

/-- A cursor in the source is at a place of the source. -/
theorem is_place_of_cursor {c : Cursor} (h : c.rest <:+ source) : IsPlace source c.bytesLeft :=
  ⟨c.rest, h, c.agrees⟩

namespace Parser.StaysIn

/-- What is read may be known to satisfy less. -/
theorem mono {p : Parser α} (hp : p.StaysIn source P) (h : ∀ value, P value → Q value) :
    p.StaysIn source Q := by
  intro c hc
  refine ⟨(hp c hc).attempts, fun value after heq => ?_⟩
  obtain ⟨hafter, hvalue⟩ := (hp c hc).outcome value after heq
  exact ⟨hafter, h value hvalue⟩

theorem succeed {value : α} (h : Q value) : (Parser.succeed value).StaysIn source Q := by
  intro c hc
  refine ⟨trivial, fun _ _ heq => ?_⟩
  cases heq
  exact ⟨hc, h⟩

theorem pure {value : α} (h : Q value) : (pure value : Parser α).StaysIn source Q :=
  succeed h

theorem bind {p : Parser α} {next : α → Parser β} (hp : p.StaysIn source P)
    (hnext : ∀ value, P value → (next value).StaysIn source R) :
    (p >>= next).StaysIn source R := by
  intro c hc
  obtain ⟨hattempts, houtcome⟩ := hp c hc
  change (andThen p next c).StaysIn source R
  rw [andThen]
  split
  · next attempts heq =>
      rw [heq] at hattempts
      exact .of_none hattempts
  · next value after earlier heq =>
      rw [heq] at hattempts houtcome
      obtain ⟨hafter, hvalue⟩ := houtcome value after rfl
      obtain ⟨hlater, hresult⟩ := hnext value hvalue after hafter
      exact ⟨hattempts.merge hlater, hresult⟩

theorem fail : (Parser.fail : Parser α).StaysIn source Q :=
  fun _ _ => .of_none trivial

theorem or_else {p q : Parser α} (hp : p.StaysIn source Q) (hq : q.StaysIn source Q) :
    (orElse p q).StaysIn source Q := by
  intro c hc
  obtain ⟨hattempts, houtcome⟩ := hp c hc
  rw [orElse]
  split
  · next result attempts heq =>
      rw [heq] at hattempts houtcome
      exact ⟨hattempts, houtcome⟩
  · next earlier heq =>
      rw [heq] at hattempts
      exact ⟨hattempts.merge (hq c hc).attempts, (hq c hc).outcome⟩

theorem one_of {parsers : List (Parser α)} (h : ∀ p ∈ parsers, p.StaysIn source Q) :
    (oneOf parsers).StaysIn source Q := by
  induction parsers with
  | nil => exact fail
  | cons p parsers ih =>
      obtain ⟨hp, hparsers⟩ := List.forall_mem_cons.mp h
      exact hp.or_else (ih hparsers)

theorem optional {p : Parser α} (hp : p.StaysIn source Q) :
    (Parser.optional p).StaysIn source fun found => ∀ value ∈ found, Q value := by
  refine or_else (hp.bind fun value hvalue => succeed fun other hother => ?_) (succeed nofun)
  exact Option.some.inj hother ▸ hvalue

theorem many_up_to {p : Parser α} (hp : p.StaysIn source Q) (limit : Nat) :
    (manyUpTo p limit).StaysIn source fun values => ∀ value ∈ values, Q value := by
  induction limit with
  | zero => exact succeed (List.forall_mem_nil _)
  | succ limit ih =>
      refine or_else (hp.bind fun value hvalue => ih.bind fun values hvalues => succeed ?_)
        (succeed (List.forall_mem_nil _))
      exact List.forall_mem_cons.mpr ⟨hvalue, hvalues⟩

theorem many {p : Parser α} (hp : p.StaysIn source Q) :
    (Parser.many p).StaysIn source fun values => ∀ value ∈ values, Q value :=
  fun c hc => hp.many_up_to _ c hc

theorem rule {p : Parser α} (hp : p.StaysIn source Q) (goal : Goal) :
    (Parser.rule goal p).StaysIn source Q := by
  intro c hc
  obtain ⟨hattempts, houtcome⟩ := hp c hc
  rw [Parser.rule]
  split
  · next result attempts heq =>
      rw [heq] at hattempts houtcome
      exact ⟨hattempts, houtcome⟩
  · next attempts heq =>
      rw [heq] at hattempts
      exact .of_none (hattempts.of_rule (is_place_of_cursor hc))

theorem sharing {p : Parser α} {use : Parser α → Parser β} (hp : p.StaysIn source Q)
    (huse : ∀ q : Parser α, q.StaysIn source Q → (use q).StaysIn source R) :
    (Parser.sharing p use).StaysIn source R := by
  intro c hc
  have hreply : Parser.StaysIn source Q fun _ => p c := fun _ _ => hp c hc
  exact huse _ hreply c hc

theorem absent (p : Parser α) : (Parser.absent p).StaysIn source fun _ => True := by
  intro c hc
  rw [Parser.absent]
  split
  · exact .of_none trivial
  · refine ⟨trivial, fun _ _ heq => ?_⟩
    cases heq
    exact ⟨hc, trivial⟩

theorem satisfy (p : Char → Bool) : (Parser.satisfy p).StaysIn source fun c => p c := by
  intro c hc
  rw [Parser.satisfy]
  split
  · next char after heq =>
      split
      · next hp =>
          refine ⟨trivial, fun _ _ hresult => ?_⟩
          cases hresult
          refine ⟨?_, hp⟩
          obtain ⟨_ | ⟨first, rest⟩, bytesLeft, agrees⟩ := c
          · cases heq
          · cases heq
            exact (List.suffix_cons _ _).trans hc
      · exact .of_none trivial
  · exact .of_none trivial

theorem char (expected : Char) : (Parser.char expected).StaysIn source fun _ => True :=
  (satisfy _).mono fun _ _ => trivial

theorem chars (expected : List Char) : (Parser.chars expected).StaysIn source fun _ => True := by
  induction expected with
  | nil => exact succeed trivial
  | cons first more ih => exact (char first).bind fun _ _ => ih

theorem take_while (p : Char → Bool) : (takeWhile p).StaysIn source fun chars => chars.all p := by
  intro c hc
  refine ⟨trivial, fun _ after heq => ?_⟩
  cases heq
  rw [rest_drop_while]
  exact ⟨(List.dropWhile_suffix p).trans hc, List.all_takeWhile⟩

theorem take_while1 (p : Char → Bool) : (takeWhile1 p).StaysIn source fun chars => chars ≠ [] :=
  (satisfy p).bind fun _ _ => (take_while p).bind fun _ _ => succeed (List.cons_ne_nil _ _)

theorem exactly (count : Nat) (p : Char → Bool) :
    (Parser.exactly count p).StaysIn source fun _ => True := by
  induction count with
  | zero => exact succeed trivial
  | succ count ih => exact (satisfy p).bind fun _ _ => ih

theorem end_of_input : endOfInput.StaysIn source fun _ => True := by
  intro c hc
  rw [endOfInput]
  split
  · refine ⟨trivial, fun _ _ heq => ?_⟩
    cases heq
    exact ⟨hc, trivial⟩
  · exact .of_none trivial

theorem blanks : Parser.blanks.StaysIn source fun _ => True :=
  (take_while isBlank).bind fun _ _ => succeed trivial

theorem many_spaced {p : Parser α} (hp : p.StaysIn source Q) :
    (manySpaced p).StaysIn source fun values => ∀ value ∈ values, Q value := by
  refine or_else (hp.bind fun value hvalue => ?_) (succeed (List.forall_mem_nil _))
  refine (many (blanks.bind fun _ _ => hp)).bind fun values hvalues => succeed ?_
  exact List.forall_mem_cons.mpr ⟨hvalue, hvalues⟩

end Parser.StaysIn

/-- What a parser that advances leaves is the end of what it was run on. -/
theorem Parser.Advances.suffix {p : Parser α} (hp : p.Advances) {cs rest : List Char} {value : α}
    (h : p.reads? cs = some (value, rest)) : rest <:+ cs := by
  obtain ⟨⟨_, after⟩, houtcome, heq⟩ := Option.map_eq_some_iff.mp h
  cases heq
  exact ((hp cs (.ofChars cs) (List.suffix_refl _)).outcome _ after houtcome).1

/-- What a parser reads of a source has the property. -/
theorem Parser.StaysIn.of_reads? {p : Parser α} {rest : List Char} {value : α}
    (hp : p.StaysIn source Q) {cs : List Char} (hcs : cs <:+ source)
    (h : p.reads? cs = some (value, rest)) : Q value := by
  obtain ⟨⟨_, after⟩, houtcome, heq⟩ := Option.map_eq_some_iff.mp h
  cases heq
  exact ((hp (.ofChars cs) hcs).outcome _ after houtcome).2

/-- What a parser reads in a source is spelled somewhere in the source. -/
theorem Parser.StaysIn.of_spells {p : Parser α} {T : List Char → α → Prop}
    (hp : p.StaysIn source Q) (hspells : p.Spells T) :
    p.StaysIn source fun value => ∃ text, text <:+: source ∧ T text value := by
  intro c hc
  refine ⟨(hp c hc).attempts, fun value after heq => ⟨((hp c hc).outcome value after heq).1, ?_⟩⟩
  obtain ⟨text, htext, hspelled⟩ := hspells _ value after.rest (reads?_of_outcome heq)
  have hprefix : text <+: c.rest := ⟨after.rest, htext.symm⟩
  exact ⟨text, hprefix.isInfix.trans hc.isInfix, hspelled⟩

/-- What is read behind a character is read in what the source has behind the character. -/
theorem Parser.StaysIn.behind_char (expected : Char) {p : Parser β} {T : List Char → β → Prop}
    (hp : ∀ behind, p.StaysIn behind (T behind)) :
    (Parser.char expected >>= fun _ => p).StaysIn source
      fun value => ∃ behind, expected :: behind <:+ source ∧ T behind value := by
  intro c hc
  obtain ⟨hattempts, -⟩ := StaysIn.char expected c hc
  change (andThen (Parser.char expected) (fun _ => p) c).StaysIn source _
  rw [andThen]
  split
  · next attempts heq =>
      rw [heq] at hattempts
      exact .of_none hattempts
  · next value after earlier heq =>
      rw [heq] at hattempts
      have hread : (Parser.char expected).reads? c.rest = some (value, after.rest) :=
        reads?_of_outcome (by rw [heq])
      obtain ⟨_, htext, rfl⟩ := Spells.char expected _ _ _ hread
      have hrest : expected :: after.rest <:+ source := by
        rw [htext, List.singleton_append] at hc
        exact hc
      have hbehind : after.rest <:+ source := (List.suffix_cons _ _).trans hrest
      obtain ⟨hlater, hresult⟩ := hp after.rest after (List.suffix_refl _)
      refine ⟨hattempts.merge (hlater.trans hbehind), fun other last hlast => ?_⟩
      obtain ⟨hsuffix, hT⟩ := hresult other last hlast
      exact ⟨hsuffix.trans hbehind, after.rest, hrest, hT⟩

/-! ## Lexemes -/

/-- The lexeme is the stretch of the source that its places tell. -/
def Lexeme.IsIn (source : List Char) (lexeme : Lexeme) : Prop :=
  ∃ rest, lexeme.text ++ rest <:+ source ∧
    lexeme.bytesLeft = byteCount (lexeme.text ++ rest) ∧ lexeme.bytesAfter = byteCount rest

/-- The stretch that a parser reads is a stretch of the source. -/
theorem Parser.StaysIn.lexeme {p : Parser α} (hp : p.Advances) :
    (Parser.lexeme p).StaysIn source (Lexeme.IsIn source) := by
  intro c hc
  obtain ⟨hattempts, -⟩ := hp source c hc
  rw [Parser.lexeme]
  split
  · next value after attempts heq =>
      rw [heq] at hattempts
      refine ⟨hattempts, fun _ _ hresult => ?_⟩
      cases hresult
      -- Seen from where the parser begins, it stops behind a stretch that it has read.
      obtain ⟨⟨first, hfirst⟩, -⟩ :=
        (hp c.rest c (List.suffix_refl _)).outcome value after (by rw [heq])
      have htext : takeBytes (c.bytesLeft - after.bytesLeft) c.rest = first := by
        rw [c.agrees, after.agrees, ← hfirst, byte_count_append, Nat.add_sub_cancel,
          take_bytes_append]
      have hafter : after.rest <:+ c.rest := ⟨first, hfirst⟩
      refine ⟨hafter.trans hc, after.rest, ?_⟩
      rw [htext, hfirst]
      exact ⟨hc, c.agrees, after.agrees⟩
  · next attempts heq =>
      rw [heq] at hattempts
      exact .of_none hattempts

/-- The stretch that a parser reads is a stretch of the source, and is as the parser spells it. -/
theorem Parser.StaysIn.lexeme_of_spells {p : Parser α} (hp : p.Advances) {P : List Char → Prop}
    (hspells : p.Spells fun text _ => P text) :
    (Parser.lexeme p).StaysIn source fun lexeme => lexeme.IsIn source ∧ P lexeme.text := by
  intro c hc
  obtain ⟨hattempts, houtcome⟩ := StaysIn.lexeme hp c hc
  refine ⟨hattempts, fun lexeme after heq => ?_⟩
  obtain ⟨hafter, hlexeme⟩ := houtcome lexeme after heq
  exact ⟨hafter, hlexeme, text_of_reads?_lexeme hspells (reads?_of_outcome heq)⟩

end TextTemplate.Grammar
