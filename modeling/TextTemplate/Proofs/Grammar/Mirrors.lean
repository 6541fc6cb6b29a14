import Mathlib.Data.List.Forall2
import TextTemplate.Grammar.Pair
import TextTemplate.Proofs.Grammar.Spelling

/-!
# Parsers that mirror each other

Two parsers mirror each other if they always read the same characters, with values that are related,
and report the same goals (`Parser.Mirrors`). Each combinator hands this on from its parts. A rule
that leaves a pair mirrors one that answers with something else when the two are related wherever
the rules begin and stop (`Parser.Mirrors.pair`). The text of a pair is what the body of its rule
reads.
-/

namespace TextTemplate.Grammar

open TextTemplate.Grammar.Parser

variable {α β γ δ : Type} {R : α → β → Prop} {S : γ → δ → Prop}

/-- The replies have related values, or none, and agree in all else. -/
inductive Reply.Mirrors (R : α → β → Prop) : Reply α → Reply β → Prop where
  | fails (attempts : Option Attempts) : Mirrors R ⟨none, attempts⟩ ⟨none, attempts⟩
  | reads {value : α} {other : β} (h : R value other) (after : Cursor)
      (attempts : Option Attempts) :
      Mirrors R ⟨some (value, after), attempts⟩ ⟨some (other, after), attempts⟩

/-- At every place the parsers read the same characters, with related values. -/
def Parser.Mirrors (R : α → β → Prop) (p : Parser α) (q : Parser β) : Prop :=
  ∀ c, Reply.Mirrors R (p c) (q c)

/-- Nothing changes when what is read is answered. -/
theorem Parser.bind_pure_eq (p : Parser α) : p >>= pure = p := by
  funext c
  show andThen p succeed c = p c
  unfold andThen
  generalize p c = reply
  obtain ⟨_ | ⟨value, after⟩, attempts⟩ := reply
  · rfl
  · cases attempts <;> rfl

namespace Parser.Mirrors

variable {p : Parser α} {q : Parser β}

theorem mono {T : α → β → Prop} (h : Mirrors R p q)
    (hT : ∀ value other, R value other → T value other) :
    Mirrors T p q := by
  intro c
  have hc := h c
  generalize p c = first, q c = second at hc
  cases hc with
  | fails attempts => exact .fails attempts
  | reads hR after attempts => exact .reads (hT _ _ hR) after attempts

/-- A parser mirrors itself. -/
theorem refl (p : Parser α) : Mirrors Eq p p := by
  intro c
  generalize p c = reply
  obtain ⟨outcome, attempts⟩ := reply
  cases outcome with
  | none => exact .fails attempts
  | some result => exact .reads rfl result.2 attempts

theorem pure {value : α} {other : β} (h : R value other) :
    Mirrors R (Pure.pure value) (Pure.pure other) :=
  fun c => .reads h c none

theorem fail : Mirrors R fail fail :=
  fun _ => .fails none

theorem bind {next : α → Parser γ} {other : β → Parser δ} (h : Mirrors R p q)
    (hnext : ∀ first second, R first second → Mirrors S (next first) (other second)) :
    Mirrors S (p >>= next) (q >>= other) := by
  intro c
  show Reply.Mirrors S (andThen p next c) (andThen q other c)
  unfold andThen
  have hc := h c
  generalize p c = first, q c = second at hc
  cases hc with
  | fails attempts => exact .fails attempts
  | reads hR after attempts =>
      have hmore := hnext _ _ hR after
      dsimp only
      generalize next _ after = third, other _ after = fourth at hmore
      cases hmore with
      | fails later => exact .fails _
      | reads hS last later => exact .reads hS last _

/-- What both read first, and make no use of, does not matter. -/
theorem skip (first : Parser α) {next : Parser γ} {other : Parser δ} (h : Mirrors S next other) :
    Mirrors S (first >>= fun _ => next) (first >>= fun _ => other) :=
  (refl first).bind fun _ _ _ => h

theorem or_else {p' : Parser α} {q' : Parser β} (h : Mirrors R p q) (h' : Mirrors R p' q') :
    Mirrors R (orElse p p') (orElse q q') := by
  intro c
  unfold orElse
  have hc := h c
  generalize p c = first, q c = second at hc
  cases hc with
  | reads hR after attempts => exact .reads hR after attempts
  | fails attempts =>
      have hmore := h' c
      dsimp only
      generalize p' c = third, q' c = fourth at hmore
      cases hmore with
      | fails later => exact .fails _
      | reads hR after later => exact .reads hR after _

theorem one_of {ps : List (Parser α)} {qs : List (Parser β)} (h : List.Forall₂ (Mirrors R) ps qs) :
    Mirrors R (oneOf ps) (oneOf qs) := by
  induction h with
  | nil => exact fail
  | cons h _ ih => exact h.or_else ih

theorem optional (h : Mirrors R p q) : Mirrors (Option.Rel R) (optional p) (optional q) := by
  have hsome : Mirrors (Option.Rel R) (p >>= fun value => Pure.pure (some value))
      (q >>= fun value => Pure.pure (some value)) := h.bind fun _ _ hR => pure (.some hR)
  have hnone : Mirrors (Option.Rel R) (Pure.pure none) (Pure.pure none) := pure .none
  exact hsome.or_else hnone

theorem many_up_to (h : Mirrors R p q) (limit : Nat) :
    Mirrors (List.Forall₂ R) (manyUpTo p limit) (manyUpTo q limit) := by
  induction limit with
  | zero => exact pure .nil
  | succ limit ih =>
      have hstep : Mirrors (List.Forall₂ R)
          (p >>= fun value => manyUpTo p limit >>= fun more => Pure.pure (value :: more))
          (q >>= fun value => manyUpTo q limit >>= fun more => Pure.pure (value :: more)) :=
        h.bind fun _ _ hR => ih.bind fun _ _ hmore => pure (.cons hR hmore)
      have hstop : Mirrors (List.Forall₂ R) (Pure.pure []) (Pure.pure []) := pure .nil
      exact hstep.or_else hstop

theorem many (h : Mirrors R p q) : Mirrors (List.Forall₂ R) (many p) (many q) :=
  fun c => h.many_up_to _ c

theorem many_spaced (h : Mirrors R p q) :
    Mirrors (List.Forall₂ R) (manySpaced p) (manySpaced q) := by
  have hspaced : Mirrors R (andThen blanks fun _ => p) (andThen blanks fun _ => q) :=
    (refl blanks).bind fun _ _ _ => h
  have hsome : Mirrors (List.Forall₂ R)
      (p >>= fun first => Parser.many (andThen blanks fun _ => p) >>= fun more =>
        Pure.pure (first :: more))
      (q >>= fun first => Parser.many (andThen blanks fun _ => q) >>= fun more =>
        Pure.pure (first :: more)) :=
    h.bind fun _ _ hR => hspaced.many.bind fun _ _ hmore => pure (.cons hR hmore)
  have hnone : Mirrors (List.Forall₂ R) (Pure.pure []) (Pure.pure []) := pure .nil
  exact hsome.or_else hnone

theorem sharing {use : Parser α → Parser γ} {use' : Parser β → Parser δ} (h : Mirrors R p q)
    (huse : ∀ p' q', Mirrors R p' q' → Mirrors S (use p') (use' q')) :
    Mirrors S (sharing p use) (sharing q use') :=
  fun c => huse (fun _ => p c) (fun _ => q c) (fun _ => h c) c

theorem rule {goal : Goal} (h : Mirrors R p q) : Mirrors R (rule goal p) (rule goal q) := by
  intro c
  unfold Parser.rule
  have hc := h c
  generalize p c = first, q c = second at hc
  cases hc with
  | fails attempts => exact .fails _
  | reads hR after attempts => exact .reads hR after attempts

/-- The value may be turned into another one at the end. -/
theorem map_right {T : α → γ → Prop} {f : β → γ} (h : Mirrors R p q)
    (hT : ∀ value other, R value other → T value (f other)) :
    Mirrors T p (q >>= fun other => Pure.pure (f other)) := by
  have hp : (p >>= Pure.pure) = p := bind_pure_eq p
  rw [← hp]
  exact h.bind fun value other hR => pure (hT value other hR)

/-- Where the values do not matter, a parser is mirrored by one that keeps the stretch. -/
theorem lexeme (h : Mirrors R p q) : Mirrors (fun _ _ => True) p (lexeme q) := by
  intro c
  have hc := h c
  unfold Parser.lexeme
  generalize p c = first, q c = second at hc
  cases hc with
  | fails attempts => exact .fails attempts
  | reads _ after attempts => exact .reads trivial after attempts

/-- A rule that leaves a pair mirrors one that answers with something else. The pair lies where
both rules began and stopped. -/
theorem pair {goal : Goal} {p : Parser (List Pair)} {T R : List Pair → β → Prop}
    (h : Mirrors T p q)
    (hR : ∀ start stop inner other, T inner other → (p start).outcome = some (inner, stop) →
      (q start).outcome = some (other, stop) → R [.mk goal start stop inner] other) :
    Mirrors R (Parser.pair goal p) (Parser.rule goal q) := by
  intro c
  have hc := h c
  have hplace := hR c
  unfold Parser.pair Parser.rule
  generalize p c = first, q c = second at hc hplace
  cases hc with
  | fails attempts => exact .fails _
  | reads hT after attempts => exact .reads (hplace after _ _ hT rfl rfl) after attempts

/-- A rule that leaves a single pair mirrors one that answers with something for the stretch of the
pair. -/
theorem token {goal : Goal} {T : List Pair → β → Prop} (h : Mirrors R p q)
    (hT : ∀ start stop other, (q start).outcome = some (other, stop) →
      T [.mk goal start stop []] other) :
    Mirrors T (Parser.token goal p) (Parser.rule goal q) := by
  have hq : (q >>= Pure.pure) = q := bind_pure_eq q
  have hbody : Mirrors (fun inner _ => inner = [])
      (p >>= fun _ => Pure.pure ([] : List Pair)) (q >>= Pure.pure) := h.bind fun _ _ _ => pure rfl
  rw [hq] at hbody
  refine hbody.pair fun start stop inner other hinner _ hstop => ?_
  subst hinner
  exact hT start stop other hstop

end Parser.Mirrors

/-! ## Stretches -/

/-- What was read between two places is the text of the stretch between them. -/
theorem stretch_text {start stop : Cursor} {text : List Char} (h : start.rest = text ++ stop.rest) :
    (Pair.stretch start stop).text = text := by
  have hbytes : start.bytesLeft - stop.bytesLeft = byteCount text := by
    rw [start.agrees, stop.agrees, h, byte_count_append, Nat.add_sub_cancel]
  unfold Pair.stretch
  rw [hbytes, h, take_bytes_append]

/-- The stretch that a parser keeps lies where it began and stopped. -/
theorem eq_of_lexeme {q : Parser α} {f : Lexeme → β} {start stop : Cursor} {other : β}
    (h : ((lexeme q >>= fun found => pure (f found)) start).outcome = some (other, stop)) :
    other = f (Pair.stretch start stop) := by
  change (andThen (lexeme q) (fun found => succeed (f found)) start).outcome = _ at h
  unfold andThen lexeme at h
  generalize q start = reply at h
  obtain ⟨_ | ⟨value, after⟩, attempts⟩ := reply
  · cases h
  · obtain ⟨rfl, rfl⟩ := Prod.mk.inj (Option.some.inj h)
    rfl

/-- A rule that leaves a single pair mirrors one that answers with something for the stretch that it
keeps. -/
theorem Parser.Mirrors.token_lexeme {goal : Goal} {p : Parser α} {q : Parser β}
    {f : Lexeme → γ} {T : List Pair → γ → Prop} (h : Mirrors R p q)
    (hT : ∀ start stop, T [.mk goal start stop []] (f (Pair.stretch start stop))) :
    Mirrors T (Parser.token goal p)
      (Parser.rule goal (Parser.lexeme q >>= fun found => Pure.pure (f found))) := by
  have hbody : Mirrors (fun _ _ => True) p
      (Parser.lexeme q >>= fun found => Pure.pure (f found)) :=
    h.lexeme.map_right fun _ _ _ => trivial
  refine hbody.token fun start stop other hstop => ?_
  rw [eq_of_lexeme hstop]
  exact hT start stop

/-- A rule that leaves a single pair mirrors one that answers with something for the text of the
pair. -/
theorem Parser.Mirrors.token_text {goal : Goal} {p : Parser α} {q : Parser β}
    {P : List Char → β → Prop} {T : List Pair → β → Prop} (h : Mirrors R p q) (hq : Spells P q)
    (hT : ∀ start stop other, P (Pair.stretch start stop).text other →
      T [.mk goal start stop []] other) :
    Mirrors T (Parser.token goal p) (Parser.rule goal q) := by
  refine h.token fun start stop other hstop => ?_
  obtain ⟨text, hstart, hP⟩ := hq _ _ _ (reads?_of_outcome hstop)
  rw [← stretch_text hstart] at hP
  exact hT start stop other hP

/-- The next parser goes on where the first one stopped. -/
theorem outcome_bind (p : Parser α) (next : α → Parser β) (c : Cursor) :
    ((p >>= next) c).outcome =
      (p c).outcome.bind fun (value, after) => (next value after).outcome := by
  show (andThen p next c).outcome = _
  unfold andThen
  generalize p c = reply
  obtain ⟨_ | ⟨value, after⟩, attempts⟩ := reply <;> rfl

/-- A pair lies where the body of its rule began and stopped. -/
theorem outcome_pair (goal : Goal) (body : Parser (List Pair)) (c : Cursor) :
    (Parser.pair goal body c).outcome =
      (body c).outcome.map fun (inner, after) => ([.mk goal c after inner], after) := by
  unfold Parser.pair rule
  generalize body c = reply
  obtain ⟨_ | ⟨inner, after⟩, attempts⟩ := reply <;> rfl

end TextTemplate.Grammar
