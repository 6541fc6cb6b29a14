import Mathlib.Data.List.Forall2
import TextTemplate.Proofs.Grammar.Operands

/-!
# Texts in the place of expressions

An expression goes on as far as it can, so that a text is read as a tree only where something ends
the expression (`Ends`). A text that is read so wherever it ends (`Understands`) can take the place
of an expression: in parentheses, among the items of a list (`yields_list`) and among the arguments
of a function, whatever blanks stand around. Two bounds that are read make a range
(`yields_primary_range`).
-/

namespace TextTemplate

open TextTemplate.Grammar TextTemplate.Grammar.Parser TextTemplate.Number

/-! ## What ends an expression -/

/-- Behind the blanks that come next an expression ends, at the end of the source or at something
that closes or separates. -/
structure Ends (rest tail : List Char) : Prop where
  blanks : rest.dropWhile isBlank = tail
  closed : ∀ c ∈ tail.head?, c ∈ closingChars

theorem Ends.tail {rest tail : List Char} (h : Ends rest tail) {p : Char → Bool}
    (hp : closingChars.all (!p ·)) : Stops p tail :=
  fun c hc => not_of_mem hp (h.closed c hc)

theorem Ends.tail_blanks {rest tail : List Char} (h : Ends rest tail) :
    tail.dropWhile isBlank = tail :=
  (h.tail rfl).drop_while

/-- What neither blanks nor closing characters have stops at once. -/
theorem Ends.rest {rest tail : List Char} (h : Ends rest tail) {p : Char → Bool}
    (hblank : blankChars.all (!p ·)) (hp : closingChars.all (!p ·)) : Stops p rest := by
  cases rest with
  | nil => exact .nil p
  | cons c rest =>
      by_cases hc : isBlank c
      · exact .cons (not_of_is_blank hblank hc) rest
      · have htail : tail = c :: rest := by
          rw [← h.blanks, List.dropWhile_cons_of_neg hc]
        exact htail ▸ h.tail hp

/-- No range goes on where an expression ends. -/
theorem Ends.dots {rest tail : List Char} (h : Ends rest tail) : NoDots rest :=
  no_dots_of_stops h.blanks (h.tail rfl)

/-- A bracket or a comma behind blanks ends what stands in front of it. -/
theorem Ends.of_closing {ws : List Char} (hws : ∀ c ∈ ws, isBlank c) {closing : Char}
    (hclosing : closing ∈ closingChars) (rest : List Char) :
    Ends (ws ++ closing :: rest) (closing :: rest) where
  blanks := by
    have hblank : isBlank closing = false := not_of_mem rfl hclosing
    exact Stops.drop_while_append (.cons hblank rest) hws
  closed := by
    intro c hc
    rw [← Option.some.inj hc]
    exact hclosing

/-- The end of the source ends an expression. -/
theorem Ends.nil : Ends [] [] where
  blanks := rfl
  closed := fun _ hc => by cases hc

/-! ## Texts that are read as trees -/

variable {inner : Parser Phrase} {cs rest tail : List Char} {expr : Expr}

/-- The text begins with no blank, and `inner` reads it as the tree, wherever it ends, with the
blanks behind it. -/
structure Understands (inner : Parser Phrase) (text : List Char) (expr : Expr) : Prop where
  begins : ∀ rest, Stops isBlank (text ++ rest)
  yields : ∀ ⦃rest tail⦄, Ends rest tail → inner.Yields (text ++ rest) expr tail

/-- An operand that is read wherever it ends, with or without the blanks behind it, is an expression
of its own. -/
theorem Understands.of_primary {text : List Char} (hbegins : ∀ rest, Stops isBlank (text ++ rest))
    (h : ∀ ⦃rest tail⦄, Ends rest tail → ∃ after,
      (primary inner).Yields (text ++ rest) expr after ∧ after.dropWhile isBlank = tail) :
    Understands (expressionOver inner) text expr where
  begins := hbegins
  yields := by
    intro rest tail hrest
    obtain ⟨after, hprimary, hafter⟩ := h hrest
    exact yields_expression_over (yields_operand hprimary hafter (hrest.tail rfl))
      hrest.tail_blanks (hrest.tail rfl)

/-! ## Items with commas between them -/

/-- A text between brackets, with blanks just inside them. -/
def enclosed (ws : List Char) (opening : Char) (text : List Char) (closing : Char) : List Char :=
  opening :: (ws ++ text ++ ws ++ [closing])

/-- A text behind a comma, with blanks before and behind the comma. -/
def behindComma (before after text : List Char) : List Char :=
  before ++ ',' :: (after ++ text)

/-- Texts with commas between them, and with blanks before and behind each comma. -/
def commaSeparated (before after : List Char) : List (List Char) → List Char
  | [] => []
  | text :: texts => text ++ texts.flatMap (behindComma before after)

@[simp] theorem length_enclosed (ws : List Char) (opening : Char) (text : List Char)
    (closing : Char) :
    (enclosed ws opening text closing).length = text.length + 2 * ws.length + 2 := by
  simp only [enclosed, List.length_cons, List.length_append, List.length_nil]
  omega

/-- A text takes no more than all texts with their commas. -/
theorem length_le_comma_separated (before after : List Char) {texts : List (List Char)}
    {text : List Char} (h : text ∈ texts) :
    text.length ≤ (commaSeparated before after texts).length := by
  cases texts with
  | nil => cases h
  | cons first texts =>
      rw [commaSeparated, List.length_append]
      rcases List.mem_cons.mp h with rfl | h
      · omega
      · obtain ⟨earlier, later, rfl⟩ := List.append_of_mem h
        simp only [behindComma, List.flatMap_append, List.flatMap_cons, List.length_append,
          List.length_cons]
        omega

/-- What separates two items, with the second of them. -/
def nextItem (inner : Parser Phrase) : Parser Phrase := do
  let _ ← char ','
  blanks
  inner

variable {ws before after : List Char} {texts : List (List Char)} {exprs : List Expr}

/-- Further items are read one by one, each with the blanks behind it. -/
theorem reads_many_items (hbefore : ∀ c ∈ before, isBlank c) (hafter : ∀ c ∈ after, isBlank c)
    (h : List.Forall₂ (Understands inner) texts exprs) (hrest : Ends rest tail)
    (htail : Stops (· == ',') tail) :
    ∃ cs phrases, Ends (texts.flatMap (behindComma before after) ++ rest) cs ∧
      ReadsMany (andThen blanks fun _ => nextItem inner) cs phrases tail ∧
      Phrase.allToExpr phrases = .ok exprs := by
  induction h with
  | nil =>
      refine ⟨tail, [], hrest, .blanks_stop hrest.tail_blanks ?_, rfl⟩
      simp [nextItem, reads?_char_eq_none htail]
  | @cons text expr texts exprs hitem hitems ih =>
      obtain ⟨cs, phrases, hends, hmany, hphrases⟩ := ih
      obtain ⟨phrase, hreads, hphrase⟩ := hitem.yields hends
      let behind := texts.flatMap (behindComma before after) ++ rest
      let more := after ++ (text ++ behind)
      have hread : (nextItem inner).reads? (',' :: more) = some (phrase, cs) := by
        simp only [nextItem, more, behind, reads?_bind, reads?_char_cons, if_true,
          Option.bind_some, reads?_blanks, (hitem.begins _).drop_while_append hafter, hreads]
      have hless : cs.length < (',' :: more).length := by
        have hdrop : cs.length ≤ behind.length :=
          hends.blanks ▸ (List.dropWhile_sublist isBlank).length_le
        simp only [more, List.length_cons, List.length_append]
        omega
      refine ⟨',' :: more, phrase :: phrases, ?_, .blanks_step ?_ hread hless hmany, ?_⟩
      · have hends : Ends (before ++ ',' :: more) (',' :: more) :=
          .of_closing hbefore (by decide) more
        simpa [behindComma, more, behind] using hends
      · exact (Stops.cons (rfl : isBlank ',' = false) more).drop_while
      · rw [Phrase.allToExpr, hphrase, hphrases]
        rfl

/-- Items between brackets are read with the blanks around them. -/
theorem yields_separated (hbefore : ∀ c ∈ before, isBlank c) (hafter : ∀ c ∈ after, isBlank c)
    (h : List.Forall₂ (Understands inner) texts exprs) (hnone : inner.reads? tail = none)
    (hrest : Ends rest tail) (htail : Stops (· == ',') tail) :
    (separated inner).YieldsAll ((commaSeparated before after texts ++ rest).dropWhile isBlank)
      exprs tail := by
  cases h with
  | nil =>
      refine ⟨[], ?_, rfl⟩
      simp [separated, commaSeparated, hrest.blanks, hnone]
  | cons hitem hitems =>
      obtain ⟨cs, phrases, hends, hmany, hphrases⟩ :=
        reads_many_items hbefore hafter hitems hrest htail
      obtain ⟨phrase, hreads, hphrase⟩ := hitem.yields hends
      have hspaced : (manySpaced (nextItem inner)).reads? cs = some (phrases, tail) :=
        reads?_many_spaced hmany hends.tail_blanks
      rw [nextItem] at hspaced
      refine ⟨phrase :: phrases, ?_, ?_⟩
      · rw [commaSeparated, List.append_assoc, (hitem.begins _).drop_while]
        simp [separated, hreads, hends.tail_blanks, hspaced]
      · rw [Phrase.allToExpr, hphrase, hphrases]
        rfl

/-- A list is read up to its closing bracket. -/
theorem yields_list (hws : ∀ c ∈ ws, isBlank c) (hbefore : ∀ c ∈ before, isBlank c)
    (hafter : ∀ c ∈ after, isBlank c) (h : List.Forall₂ (Understands inner) texts exprs)
    (hnone : inner.reads? (']' :: rest) = none) :
    (list inner).Yields (enclosed ws '[' (commaSeparated before after texts) ']' ++ rest)
      (.list exprs) rest := by
  have hends : Ends (ws ++ ']' :: rest) (']' :: rest) := .of_closing hws (by decide) rest
  have hcomma : Stops (· == ',') (']' :: rest) := .cons rfl rest
  obtain ⟨phrases, hreads, hphrases⟩ := yields_separated hbefore hafter h hnone hends hcomma
  refine ⟨.list phrases, ?_, by rw [Phrase.toExpr, hphrases]; rfl⟩
  simp [list, enclosed, List.dropWhile_append_of_pos hws, hreads, hends.tail_blanks]

/-- The arguments of a function are read up to the closing parenthesis. -/
theorem yields_call_arguments (hws : ∀ c ∈ ws, isBlank c) (hbefore : ∀ c ∈ before, isBlank c)
    (hafter : ∀ c ∈ after, isBlank c) (h : List.Forall₂ (Understands inner) texts exprs)
    (hnone : inner.reads? (')' :: rest) = none) :
    (callArguments inner).YieldsAll
      (enclosed ws '(' (commaSeparated before after texts) ')' ++ rest) exprs rest := by
  have hends : Ends (ws ++ ')' :: rest) (')' :: rest) := .of_closing hws (by decide) rest
  have hcomma : Stops (· == ',') (')' :: rest) := .cons rfl rest
  obtain ⟨phrases, hreads, hphrases⟩ := yields_separated hbefore hafter h hnone hends hcomma
  refine ⟨phrases, ?_, hphrases⟩
  simp [callArguments, enclosed, List.dropWhile_append_of_pos hws, hreads, hends.tail_blanks]

/-! ## Ranges -/

/-- Reads the step of a range with the slashes before it. -/
def rangeStep (inner : Parser Phrase) : Parser Phrase := do
  chars ['/', '/']
  blanks
  bound (functionCall inner) (grouped inner)

/-- From the characters the parser reads a phrase with the tree, if the range has a step, and leaves
the rest. -/
def YieldsStep (inner : Parser Phrase) (cs : List Char) (step : Option Expr) (rest : List Char) :
    Prop :=
  ∃ phrase, (optional (rangeStep inner)).reads? cs = some (phrase, rest) ∧
    Phrase.stepToExpr phrase = .ok step

/-- There is no step where an expression ends. -/
theorem yields_no_step (h : Ends rest tail) :
    YieldsStep inner (rest.dropWhile isBlank) none tail := by
  have hslash : (char '/').reads? tail = none := reads?_char_eq_none (h.tail rfl)
  rw [h.blanks]
  exact ⟨none, by simp [rangeStep, hslash], rfl⟩

/-- The step stands behind slashes. -/
theorem yields_step {behind : List Char} {step : Expr}
    (h : (bound (functionCall inner) (grouped inner)).Yields (behind.dropWhile isBlank) step rest) :
    YieldsStep inner ('/' :: '/' :: behind) (some step) rest := by
  obtain ⟨phrase, hreads, hexpr⟩ := h
  refine ⟨some phrase, by simp [rangeStep, hreads], ?_⟩
  rw [Phrase.stepToExpr, hexpr]
  rfl

/-- A range is read from its bounds on, with two points between them. -/
theorem yields_primary_range {between behind later : List Char} {start stop : Expr}
    {step : Option Expr}
    (hstart : (bound (functionCall inner) (grouped inner)).Yields cs start between)
    (hdots : between.dropWhile isBlank = '.' :: '.' :: behind)
    (hstop : (bound (functionCall inner) (grouped inner)).Yields (behind.dropWhile isBlank) stop
      later)
    (hstep : YieldsStep inner (later.dropWhile isBlank) step rest) :
    (primary inner).Yields cs (.range start stop step) rest := by
  obtain ⟨startPhrase, hstartReads, hstartExpr⟩ := hstart
  obtain ⟨stopPhrase, hstopReads, hstopExpr⟩ := hstop
  obtain ⟨stepPhrase, hstepReads, hstepExpr⟩ := hstep
  rw [rangeStep] at hstepReads
  have hrange : (range inner (functionCall inner) (grouped inner)).reads? cs =
      some (.range startPhrase stopPhrase stepPhrase, rest) := by
    rw [range, reads?_rule, reads?_bind, hstartReads]
    simp only [Option.bind_some, reads?_bind, reads?_blanks, hdots, reads?_chars_cons,
      reads?_char_cons, if_true, reads?_chars_nil, hstopReads, hstepReads, reads?_pure]
  refine ⟨.range startPhrase stopPhrase stepPhrase, ?_, ?_⟩
  · rw [reads?_primary, reads?_one_of_cons, hrange, Option.some_or]
  · rw [Phrase.toExpr, hstartExpr, hstopExpr, hstepExpr]
    rfl

end TextTemplate
