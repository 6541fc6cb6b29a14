import TextTemplate.Proofs.Grammar.Extent

/-!
# How far parsers come

A parser that consumes something whenever it succeeds can be repeated without regard to the limit
that bounds the repetition (`many_of_some`). An expression always reports goals, whether it succeeds
or fails, and none of them lies in front of its beginning (`expression_reports`).
-/

namespace TextTemplate.Grammar

open TextTemplate.Grammar.Parser

variable {α β : Type}

/-! ## Consumption -/

/-- The parser consumes a character at least whenever it succeeds. -/
def Parser.Consumes (p : Parser α) : Prop :=
  ∀ cs value rest, p.reads? cs = some (value, rest) → rest.length < cs.length

namespace Parser.Consumes

theorem satisfy (p : Char → Bool) : (satisfy p).Consumes := by
  intro cs value rest h
  cases cs with
  | nil => cases h
  | cons c cs =>
      rw [reads?_satisfy_cons] at h
      split at h
      · cases h
        exact Nat.lt_succ_self _
      · cases h

theorem bind {p : Parser α} {next : α → Parser β} (hp : p.Consumes)
    (hnext : ∀ value, (next value).Advances) : (p >>= next).Consumes := by
  intro cs result rest h
  rw [reads?_bind] at h
  obtain ⟨⟨value, middle⟩, hmiddle, h⟩ := Option.bind_eq_some_iff.mp h
  exact Nat.lt_of_le_of_lt ((hnext value).suffix h).length_le (hp cs value middle hmiddle)

theorem bind_right {p : Parser α} {next : α → Parser β} (hp : p.Advances)
    (hnext : ∀ value, (next value).Consumes) : (p >>= next).Consumes := by
  intro cs result rest h
  rw [reads?_bind] at h
  obtain ⟨⟨value, middle⟩, hmiddle, h⟩ := Option.bind_eq_some_iff.mp h
  exact Nat.lt_of_lt_of_le (hnext value middle result rest h) (hp.suffix hmiddle).length_le

theorem or_else {p q : Parser α} (hp : p.Consumes) (hq : q.Consumes) : (orElse p q).Consumes := by
  intro cs value rest h
  rw [reads?_or_else] at h
  rcases Option.or_eq_some_iff.mp h with h | ⟨-, h⟩
  · exact hp cs value rest h
  · exact hq cs value rest h

theorem rule {p : Parser α} (hp : p.Consumes) (goal : Goal) : (rule goal p).Consumes := by
  intro cs value rest h
  rw [reads?_rule] at h
  exact hp cs value rest h

end Parser.Consumes

/-! ## Repetition -/

@[simp] theorem merge_none (attempts : Option Attempts) :
    Attempts.merge attempts none = attempts := by
  cases attempts <;> rfl

@[simp] theorem none_merge (attempts : Option Attempts) :
    Attempts.merge none attempts = attempts := by
  cases attempts <;> rfl

/-- A reply is what is read with the attempts. -/
theorem reads?_of_reply {p : Parser α} {c after : Cursor} {value : α} {attempts : Option Attempts}
    (h : p c = ⟨some (value, after), attempts⟩) : p.reads? c.rest = some (value, after.rest) := by
  rw [reads?, ← cursor_eq_of_chars c, h]
  rfl

/-- Behind what is read, the next parser goes on. -/
theorem bind_of_reply {p : Parser α} {next : α → Parser β} {c after : Cursor} {value : α}
    {attempts : Option Attempts} (h : p c = ⟨some (value, after), attempts⟩) :
    (p >>= next) c = ⟨(next value after).outcome,
      Attempts.merge attempts (next value after).attempts⟩ := by
  change andThen p next c = _
  rw [andThen, h]

/-- A limit that is not reached does not matter. -/
theorem many_up_to_eq {p : Parser α} (hp : p.Consumes) {limit other : Nat} {c : Cursor}
    (hlimit : c.rest.length < limit) (hother : c.rest.length < other) :
    manyUpTo p limit c = manyUpTo p other c := by
  induction limit generalizing other c with
  | zero => omega
  | succ limit ih =>
      obtain ⟨other, rfl⟩ : ∃ more, other = more + 1 := ⟨other - 1, by omega⟩
      rw [manyUpTo, manyUpTo, orElse, orElse, andThen, andThen]
      cases hreply : p c with
      | mk outcome attempts =>
          cases outcome with
          | none => rfl
          | some result =>
              obtain ⟨value, after⟩ := result
              have hless := hp _ _ _ (reads?_of_reply hreply)
              simp only [andThen, ih (show after.rest.length < limit by omega)
                (show after.rest.length < other by omega)]

/-- Nothing is repeated where the parser fails. -/
theorem many_of_none {p : Parser α} {c : Cursor} {attempts : Option Attempts}
    (h : p c = ⟨none, attempts⟩) : many p c = ⟨some ([], c), attempts⟩ := by
  rw [many, manyUpTo, orElse, andThen, h]
  simp [succeed]

/-- Where the parser succeeds, repetition goes on behind what it has read. -/
theorem many_of_some {p : Parser α} (hp : p.Consumes) {c after last : Cursor} {value : α}
    {values : List α} {attempts more : Option Attempts} (h : p c = ⟨some (value, after), attempts⟩)
    (hmore : many p after = ⟨some (values, last), more⟩) :
    many p c = ⟨some (value :: values, last), Attempts.merge attempts more⟩ := by
  have hless := hp _ _ _ (reads?_of_reply h)
  have hlength : ∀ c : Cursor, c.rest.length ≤ c.bytesLeft := fun c =>
    c.agrees ▸ length_le_byte_count c.rest
  have hlimit : manyUpTo p c.bytesLeft after = ⟨some (values, last), more⟩ := by
    rw [← hmore, many]
    exact many_up_to_eq hp (Nat.lt_of_lt_of_le hless (hlength c))
      (Nat.lt_succ_of_le (hlength after))
  rw [many, manyUpTo, orElse, andThen, h]
  simp [andThen, hlimit, succeed]

/-- Reading with `p` again and again from the cursor gives the values, with `p` failing at the last
place; the attempts are those of all readings. -/
inductive Repeats (p : Parser α) : Cursor → List α → Cursor → Option Attempts → Prop where
  | stop {c : Cursor} {attempts : Option Attempts} (h : p c = ⟨none, attempts⟩) :
      Repeats p c [] c attempts
  | step {c after last : Cursor} {value : α} {values : List α} {attempts more : Option Attempts}
      (h : p c = ⟨some (value, after), attempts⟩) (hmore : Repeats p after values last more) :
      Repeats p c (value :: values) last (Attempts.merge attempts more)

/-- Repetition reads again and again. -/
theorem exists_repeats {p : Parser α} (hp : p.Consumes) (c : Cursor) :
    ∃ values last attempts,
      many p c = ⟨some (values, last), attempts⟩ ∧ Repeats p c values last attempts := by
  have hsteps : ∀ size (c : Cursor), c.rest.length < size → ∃ values last attempts,
      many p c = ⟨some (values, last), attempts⟩ ∧ Repeats p c values last attempts := by
    intro size
    induction size with
    | zero => intro c h; omega
    | succ size ih =>
        intro c hsize
        cases hreply : p c with
        | mk outcome attempts =>
            cases outcome with
            | none => exact ⟨[], c, attempts, many_of_none hreply, .stop hreply⟩
            | some result =>
                obtain ⟨value, after⟩ := result
                have hless := hp _ _ _ (reads?_of_reply hreply)
                obtain ⟨values, last, more, hmore, hrepeats⟩ := ih after (by omega)
                exact ⟨value :: values, last, Attempts.merge attempts more,
                  many_of_some hp hreply hmore, .step hreply hrepeats⟩
  exact hsteps (c.rest.length + 1) c (Nat.lt_succ_self _)

/-- A parser that advances stops at its beginning or behind it. -/
theorem Parser.Advances.le {p : Parser α} (hp : p.Advances) {c after : Cursor} {value : α}
    (h : (p c).outcome = some (value, after)) : after.bytesLeft ≤ c.bytesLeft := by
  rw [c.agrees]
  have hafter := ((hp c.rest c (List.suffix_refl _)).outcome value after h).1
  exact (is_place_of_cursor hafter).le

/-! ## Reports -/

/-- Goals are reported where no more than that many bytes are left. -/
def Attempts.Reach (bytesLeft : Nat) (attempts : Option Attempts) : Prop :=
  ∃ furthest, attempts = some furthest ∧ furthest.bytesLeft ≤ bytesLeft

namespace Attempts.Reach

variable {bytesLeft : Nat} {earlier later : Option Attempts}

theorem mono {other : Nat} (h : Reach bytesLeft earlier) (hle : bytesLeft ≤ other) :
    Reach other earlier := by
  obtain ⟨furthest, rfl, hfurthest⟩ := h
  exact ⟨furthest, rfl, Nat.le_trans hfurthest hle⟩

theorem merge_left (h : Reach bytesLeft earlier) : Reach bytesLeft (merge earlier later) := by
  obtain ⟨furthest, rfl, hfurthest⟩ := h
  cases later with
  | none => exact ⟨furthest, rfl, hfurthest⟩
  | some later =>
      rw [merge]
      split
      · exact ⟨later, rfl, by omega⟩
      · split
        · exact ⟨furthest, rfl, hfurthest⟩
        · exact ⟨_, rfl, hfurthest⟩

theorem merge_right (h : Reach bytesLeft later) : Reach bytesLeft (merge earlier later) := by
  obtain ⟨furthest, rfl, hfurthest⟩ := h
  cases earlier with
  | none => exact ⟨furthest, rfl, hfurthest⟩
  | some earlier =>
      rw [merge]
      split
      · exact ⟨furthest, rfl, hfurthest⟩
      · split
        · exact ⟨earlier, rfl, by omega⟩
        · exact ⟨_, rfl, by dsimp only; omega⟩

/-- A rule that fails reports as far on as its parts. -/
theorem of_rule {goal : Goal} {start : Nat} (h : Reach bytesLeft earlier) :
    Reach bytesLeft (ofRule goal start earlier) := by
  obtain ⟨furthest, rfl, hfurthest⟩ := h
  rw [ofRule]
  split
  · exact ⟨furthest, rfl, hfurthest⟩
  · exact ⟨_, rfl, by dsimp only; omega⟩

end Attempts.Reach

/-- The parser reports goals, at its beginning or further on, when it fails. -/
def Parser.Explains (p : Parser α) : Prop :=
  ∀ c, (p c).outcome = none → Attempts.Reach c.bytesLeft (p c).attempts

/-- The parser reports goals, at its beginning or further on, even when it succeeds. -/
def Parser.Reports (p : Parser α) : Prop :=
  ∀ c, Attempts.Reach c.bytesLeft (p c).attempts

namespace Parser

/-- A rule that fails in what is left of the source reports something there. -/
theorem reach_of_rule {goal : Goal} {p : Parser α} {Q : α → Prop} {c : Cursor}
    (hp : (rule goal p).StaysIn c.rest Q) (h : (rule goal p c).outcome = none) :
    Attempts.Reach c.bytesLeft (rule goal p c).attempts := by
  have hattempts := (hp c (List.suffix_refl _)).attempts
  have hsome : ∃ furthest, (rule goal p c).attempts = some furthest := by
    rw [rule] at h ⊢
    split at h
    · cases h
    · next attempts heq =>
        cases attempts with
        | none => exact ⟨_, rfl⟩
        | some inner => exact ⟨_, (apply_ite some _ _ _).symm⟩
  obtain ⟨furthest, hfurthest⟩ := hsome
  rw [hfurthest] at hattempts ⊢
  exact ⟨furthest, rfl, c.agrees ▸ hattempts.le⟩

/-- A choice fails with what both alternatives report. -/
theorem or_else_of_none {p q : Parser α} {c : Cursor} (h : (orElse p q c).outcome = none) :
    (p c).outcome = none ∧ (q c).outcome = none ∧
      (orElse p q c).attempts = Attempts.merge (p c).attempts (q c).attempts := by
  rw [orElse] at h ⊢
  split at h
  · cases h
  · next earlier heq =>
      rw [heq]
      exact ⟨rfl, h, rfl⟩

theorem Advances.rule_explains {p : Parser α} (hp : p.Advances) (goal : Goal) :
    (rule goal p).Explains :=
  fun c h => reach_of_rule ((hp c.rest).rule goal) h

theorem Explains.or_else {p q : Parser α} (hp : p.Explains) : (orElse p q).Explains := by
  intro c h
  obtain ⟨hfirst, -, hattempts⟩ := or_else_of_none h
  exact hattempts ▸ (hp c hfirst).merge_left

/-- Blanks never fail. -/
theorem blanks_explain : blanks.Explains :=
  nofun

/-- If both parts report something when they fail, so does the whole. -/
theorem Explains.bind {p : Parser α} {next : α → Parser β} (hp : p.Explains)
    (hadvances : p.Advances) (hnext : ∀ value, (next value).Explains) : (p >>= next).Explains := by
  intro c h
  have hattempts := hp c
  change (andThen p next c).outcome = none at h
  change Attempts.Reach c.bytesLeft (andThen p next c).attempts
  rw [andThen] at h ⊢
  split at h
  · next attempts heq =>
      rw [heq] at hattempts
      exact hattempts rfl
  · next value after earlier heq =>
      exact ((hnext value after h).mono (hadvances.le (by rw [heq]))).merge_right

theorem Reports.bind {p : Parser α} {next : α → Parser β} (hp : p.Reports) :
    (p >>= next).Reports := by
  intro c
  have hattempts := hp c
  change Attempts.Reach c.bytesLeft (andThen p next c).attempts
  rw [andThen]
  split
  · next attempts heq =>
      rw [heq] at hattempts
      exact hattempts
  · next value after earlier heq =>
      rw [heq] at hattempts
      exact hattempts.merge_left

/-- A parser reports something if it does so when it fails, and what comes next always does. -/
theorem Explains.bind_reports {p : Parser α} {next : α → Parser β} (hp : p.Explains)
    (hadvances : p.Advances) (hnext : ∀ value, (next value).Reports) : (p >>= next).Reports := by
  intro c
  have hattempts := hp c
  change Attempts.Reach c.bytesLeft (andThen p next c).attempts
  rw [andThen]
  split
  · next attempts heq =>
      rw [heq] at hattempts
      exact hattempts rfl
  · next value after earlier heq =>
      exact ((hnext value after).mono (hadvances.le (by rw [heq]))).merge_right

/-- A rule reports as far on as its body. -/
theorem reach_of_rule_body {p : Parser α} {c : Cursor} {bytesLeft : Nat}
    (h : Attempts.Reach bytesLeft (p c).attempts) (goal : Goal) :
    Attempts.Reach bytesLeft (rule goal p c).attempts := by
  rw [rule]
  split
  · next result attempts heq =>
      rw [heq] at h
      exact h
  · next attempts heq =>
      rw [heq] at h
      exact h.of_rule

theorem Reports.rule {p : Parser α} (hp : p.Reports) (goal : Goal) : (rule goal p).Reports :=
  fun c => reach_of_rule_body (hp c) goal

/-- Repetition ends where the parser fails, which is reported. -/
theorem Explains.many_reports {p : Parser α} (hp : p.Explains) (hconsumes : p.Consumes)
    (hadvances : p.Advances) : (many p).Reports := by
  intro c
  obtain ⟨values, last, attempts, hmany, hrepeats⟩ := exists_repeats hconsumes c
  rw [hmany]
  clear hmany
  induction hrepeats with
  | @stop c attempts h =>
      have hreach := hp c
      rw [h] at hreach
      exact hreach rfl
  | @step c after last value values attempts more h hmore ih =>
      exact (ih.mono (hadvances.le (by rw [h]))).merge_right

/-- A choice reports what its first alternative reports. -/
theorem Reports.or_else {p q : Parser α} (hp : p.Reports) : (orElse p q).Reports := by
  intro c
  have hattempts := hp c
  rw [orElse]
  split
  · next result attempts heq =>
      rw [heq] at hattempts
      exact hattempts
  · next earlier heq =>
      rw [heq] at hattempts
      exact hattempts.merge_left

/-- Repetition with blanks between ends where the parser fails, which is reported. -/
theorem Explains.many_spaced_reports {p : Parser α} (hp : p.Explains) (hconsumes : p.Consumes)
    (hadvances : p.Advances) : (manySpaced p).Reports := by
  have hblanks : blanks.Advances := fun _ => StaysIn.blanks
  have hmany : (many (andThen blanks fun _ => p)).Reports :=
    (blanks_explain.bind hblanks fun _ => hp).many_reports
      (Consumes.bind_right hblanks fun _ => hconsumes)
      fun source => (hblanks source).bind fun _ _ => hadvances source
  exact (hp.bind_reports hadvances fun _ => hmany.bind).or_else

end Parser

/-! ## Expressions -/

section

variable {inner : Parser Phrase} (hinner : ∀ source, inner.StaysIn source (Phrase.IsIn source))

include hinner

/-- What may follow an operand begins with a point or a bracket. -/
theorem suffix_consumes : (suffix inner).Consumes := by
  have hproperty : property.Consumes :=
    ((Consumes.satisfy _).bind fun _ source =>
      (ident_stays.rule _).bind fun _ _ => StaysIn.pure trivial).rule _
  refine hproperty.or_else (((Consumes.satisfy _).bind fun _ source => ?_).rule _)
  exact StaysIn.blanks.bind fun _ _ => (hinner source).bind fun _ _ => StaysIn.blanks.bind
    fun _ _ => (StaysIn.char _).bind fun _ _ => StaysIn.pure trivial

/-- An operand always reports something: at the latest, what could have followed it. -/
theorem operand_reports : (operand inner).Reports := by
  have hprimary : (primary inner).Explains := by
    -- The first alternative is a rule, which reads the call and the group that are shared.
    intro c h
    have hcall : Parser.StaysIn c.rest (Phrase.IsIn c.rest) fun _ => functionCall inner c :=
      fun _ _ => function_call_stays Phrase.is_in_inherited (hinner c.rest) c (List.suffix_refl _)
    have hgroup : Parser.StaysIn c.rest (Phrase.IsIn c.rest) fun _ => grouped inner c :=
      fun _ _ => grouped_stays (hinner c.rest) c (List.suffix_refl _)
    have hchoice : primary inner c =
        orElse (range inner (fun _ => functionCall inner c) fun _ => grouped inner c)
          (oneOf [capture, lambda inner, list inner, fun _ => grouped inner c, literal,
            fun _ => functionCall inner c, atom]) c := rfl
    rw [hchoice] at h ⊢
    obtain ⟨hfails, -, hattempts⟩ := or_else_of_none h
    rw [hattempts]
    exact (reach_of_rule (range_stays Phrase.is_in_inherited (hinner c.rest) hcall hgroup)
      hfails).merge_left
  have hsuffix : (suffix inner).Explains := by
    refine Explains.or_else (Advances.rule_explains (fun source => ?_) _)
    exact (StaysIn.char _).bind fun _ _ => (ident_stays.rule _).bind fun _ _ =>
      StaysIn.pure trivial
  have hsuffixes : (manySpaced (suffix inner)).Reports :=
    hsuffix.many_spaced_reports (suffix_consumes hinner) fun source =>
      (suffix_stays (hinner source)).mono fun _ _ => trivial
  exact hprimary.bind_reports
    (fun source => (primary_stays Phrase.is_in_inherited (hinner source)).mono fun _ _ => trivial)
    fun _ => blanks_explain.bind_reports (fun _ => StaysIn.blanks) fun _ => hsuffixes.bind

end

theorem expression_within_reports (depth : Nat) : (expressionWithin (depth + 1)).Reports :=
  Reports.rule ((operand_reports fun _ =>
    expression_within_stays Phrase.is_in_inherited depth).bind) _

/-- An expression always reports something, at its beginning or further on. -/
theorem expression_reports : expression.Reports :=
  fun c => expression_within_reports _ c

end TextTemplate.Grammar
