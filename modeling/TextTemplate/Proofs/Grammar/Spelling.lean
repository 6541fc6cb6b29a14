import TextTemplate.Proofs.Grammar.Reading

/-!
# The characters that are read

What a parser reads is a stretch at the beginning of the characters. `Parser.Spells` says what the
stretch is for each value, and `Parser.ReadsOnly` which characters it is made of; both follow the
combinators.
-/

namespace TextTemplate.Grammar

open TextTemplate.Grammar.Parser

variable {α β : Type}

/-- What is read from a place is read from the characters behind it. -/
theorem reads?_of_outcome {p : Parser α} {start stop : Cursor} {value : α}
    (h : (p start).outcome = some (value, stop)) :
    p.reads? start.rest = some (value, stop.rest) := by
  rw [reads?, ← cursor_eq_of_chars start, h]
  rfl

/-- The characters that the parser reads are as `P` says for its value. -/
def Parser.Spells (P : List Char → α → Prop) (p : Parser α) : Prop :=
  ∀ cs value rest, p.reads? cs = some (value, rest) → ∃ text, cs = text ++ rest ∧ P text value

namespace Parser.Spells

variable {P : List Char → α → Prop} {Q : List Char → β → Prop} {p q : Parser α}

theorem mono {T : List Char → α → Prop} (h : Spells P p)
    (hT : ∀ text value, P text value → T text value) : Spells T p := by
  intro cs value rest hread
  obtain ⟨text, hcs, hP⟩ := h cs value rest hread
  exact ⟨text, hcs, hT text value hP⟩

theorem pure {value : α} (h : P [] value) : Spells P (Pure.pure value) := by
  intro cs other rest hread
  obtain ⟨rfl, rfl⟩ := Prod.mk.inj (Option.some.inj hread)
  exact ⟨[], rfl, h⟩

theorem bind {next : α → Parser β} (h : Spells P p)
    (hnext : ∀ first value, P first value →
      Spells (fun second => Q (first ++ second)) (next value)) :
    Spells Q (p >>= next) := by
  intro cs result last hread
  rw [reads?_bind] at hread
  obtain ⟨⟨value, rest⟩, hfirst, hsecond⟩ := Option.bind_eq_some_iff.mp hread
  obtain ⟨first, rfl, hP⟩ := h cs value rest hfirst
  obtain ⟨second, rfl, hQ⟩ := hnext first value hP rest result last hsecond
  exact ⟨first ++ second, (List.append_assoc _ _ _).symm, hQ⟩

theorem or_else (hp : Spells P p) (hq : Spells P q) : Spells P (orElse p q) := by
  intro cs value rest hread
  rw [reads?_or_else, Option.or_eq_some_iff] at hread
  rcases hread with hread | ⟨-, hread⟩
  · exact hp cs value rest hread
  · exact hq cs value rest hread

theorem satisfy (test : Char → Bool) :
    Spells (fun text c => text = [c] ∧ test c) (satisfy test) := by
  intro cs value rest hread
  cases cs with
  | nil => cases hread
  | cons c cs =>
      rw [reads?_satisfy_cons] at hread
      split at hread
      · next hc =>
          obtain ⟨rfl, rfl⟩ := Prod.mk.inj (Option.some.inj hread)
          exact ⟨[c], rfl, rfl, hc⟩
      · cases hread

theorem char (expected : Char) : (char expected).Spells fun text _ => text = [expected] := by
  refine (satisfy (· == expected)).mono fun text c h => ?_
  rw [h.1, eq_of_beq h.2]

theorem chars (expected : List Char) : (chars expected).Spells fun text _ => text = expected := by
  induction expected with
  | nil => exact pure rfl
  | cons first more ih =>
      refine (char first).bind fun text _ htext => ih.mono fun rest _ hrest => ?_
      rw [htext, hrest, List.singleton_append]

theorem absent (p : Parser α) : Spells (fun text _ => text = []) (absent p) := by
  intro cs value rest hread
  rw [reads?_absent] at hread
  split at hread
  · cases hread
  · obtain ⟨-, rfl⟩ := Prod.mk.inj (Option.some.inj hread)
    exact ⟨[], rfl, rfl⟩

theorem take_while1 (test : Char → Bool) : Spells Eq (takeWhile1 test) := by
  intro cs value rest hread
  cases cs with
  | nil => cases hread
  | cons c cs =>
      rw [reads?_take_while1_cons] at hread
      split at hread
      · obtain ⟨rfl, rfl⟩ := Prod.mk.inj (Option.some.inj hread)
        refine ⟨c :: cs.takeWhile test, ?_, rfl⟩
        rw [List.cons_append, List.takeWhile_append_dropWhile]
      · cases hread

/-- What is read again and again is the parts one behind the other. -/
theorem many {p : Parser (List Char)} (h : Spells Eq p) :
    Spells (fun text parts => text = parts.flatten) (many p) := by
  have hlimit : ∀ limit, Spells (fun text parts => text = parts.flatten) (manyUpTo p limit) := by
    intro limit
    induction limit with
    | zero => exact pure rfl
    | succ limit ih =>
        have hstep : Spells (fun text parts => text = parts.flatten)
            (p >>= fun part => manyUpTo p limit >>= fun more => Pure.pure (part :: more)) := by
          refine h.bind fun first part hfirst => ih.bind fun second more hsecond => pure ?_
          rw [hfirst, hsecond, List.append_nil, List.flatten_cons]
        exact hstep.or_else (pure rfl)
  exact fun cs => hlimit (byteCount cs + 1) cs

end Parser.Spells

/-- The text of a lexeme is as its parser spells it. -/
theorem text_of_reads?_lexeme {p : Parser α} {P : List Char → Prop}
    (hspells : p.Spells fun text _ => P text) {cs rest : List Char} {found : Lexeme}
    (h : (lexeme p).reads? cs = some (found, rest)) : P found.text := by
  cases hread : p.reads? cs with
  | none =>
      rw [reads?_lexeme_eq_none hread] at h
      cases h
  | some result =>
      obtain ⟨value, after⟩ := result
      obtain ⟨text, rfl, hP⟩ := hspells cs value after hread
      rw [reads?_lexeme hread] at h
      cases h
      exact hP

/-- The parser reads no other characters than those with the property. -/
def Parser.ReadsOnly (P : Char → Prop) (p : Parser α) : Prop :=
  p.Spells fun text _ => ∀ c ∈ text, P c

namespace Parser.ReadsOnly

variable {P : Char → Prop} {p q : Parser α}

theorem pure (value : α) : ReadsOnly P (Pure.pure value : Parser α) :=
  Spells.pure (List.forall_mem_nil _)

theorem bind {next : α → Parser β} (h : ReadsOnly P p) (hnext : ∀ value, ReadsOnly P (next value)) :
    ReadsOnly P (p >>= next) :=
  Spells.bind h fun _ value hfirst => (hnext value).mono fun _ _ hsecond =>
    List.forall_mem_append.mpr ⟨hfirst, hsecond⟩

theorem or_else (hp : ReadsOnly P p) (hq : ReadsOnly P q) : ReadsOnly P (orElse p q) :=
  Spells.or_else hp hq

theorem optional (h : ReadsOnly P p) : ReadsOnly P (optional p) :=
  or_else (h.bind fun value => pure (some value)) (pure none)

theorem rule (h : ReadsOnly P p) (goal : Goal) : ReadsOnly P (rule goal p) := by
  intro cs value rest hread
  rw [reads?_rule] at hread
  exact h cs value rest hread

theorem satisfy {test : Char → Bool} (h : ∀ c, test c → P c) : ReadsOnly P (satisfy test) := by
  refine (Spells.satisfy test).mono fun text c htext => ?_
  rw [htext.1]
  exact List.forall_mem_singleton.mpr (h c htext.2)

theorem char {expected : Char} (h : P expected) : ReadsOnly P (char expected) :=
  satisfy fun _ hc => eq_of_beq hc ▸ h

theorem take_while {test : Char → Bool} (h : ∀ c, test c → P c) :
    ReadsOnly P (takeWhile test) := by
  intro cs chars rest hread
  rw [reads?_take_while] at hread
  obtain ⟨rfl, rfl⟩ := Prod.mk.inj (Option.some.inj hread)
  exact ⟨_, List.takeWhile_append_dropWhile.symm,
    fun c hc => h c (List.all_eq_true.mp List.all_takeWhile c hc)⟩

theorem take_while1 {test : Char → Bool} (h : ∀ c, test c → P c) :
    ReadsOnly P (takeWhile1 test) :=
  (satisfy h).bind fun first => (take_while h).bind fun more => pure (first :: more)

theorem exactly {test : Char → Bool} (h : ∀ c, test c → P c) (count : Nat) :
    ReadsOnly P (exactly count test) := by
  induction count with
  | zero => exact pure ()
  | succ count ih => exact (satisfy h).bind fun _ => ih

end Parser.ReadsOnly

end TextTemplate.Grammar
