import TextTemplate.Proofs.Grammar.Extent
import TextTemplate.Proofs.Grammar.Mirrors

/-!
# Pairs lie one behind the other

The pairs that a rule leaves lie one behind the other in the stretch that it takes, and so do the
pairs within each of them (`Pair.Nested`). Each combinator hands this on from its parts
(`Parser.Nests`), and the rules of the grammar follow the combinators (`expression_nests`,
`whole_template_nests`, `whole_expression_nests`).
-/

namespace TextTemplate.Grammar

open TextTemplate.Grammar.Parser

/-- Between the places with `most` and with `least` bytes left, the pairs lie one behind the other,
and within each of them so do the pairs that it holds. -/
inductive Pair.Nested : Nat → Nat → List Pair → Prop where
  | nil {most least : Nat} (h : least ≤ most) : Nested most least []
  | cons {most least : Nat} {goal : Goal} {start stop : Cursor} {inner rest : List Pair}
      (hstart : start.bytesLeft ≤ most)
      (hinner : Nested start.bytesLeft stop.bytesLeft inner)
      (hrest : Nested stop.bytesLeft least rest) :
      Nested most least (.mk goal start stop inner :: rest)

namespace Pair.Nested

variable {most middle least : Nat} {pairs others : List Pair}

/-- Pairs lie between places that are in this order. -/
theorem le (h : Nested most least pairs) : least ≤ most := by
  induction h with
  | nil h => exact h
  | cons hstart _ _ ihInner ihRest => exact Nat.le_trans (Nat.le_trans ihRest ihInner) hstart

/-- Pairs that lie behind others lie with them one behind the other. -/
theorem append (h : Nested most middle pairs) (hothers : Nested middle least others) :
    Nested most least (pairs ++ others) := by
  induction h with
  | nil h =>
      cases hothers with
      | nil hothers => exact .nil (Nat.le_trans hothers h)
      | cons hstart hinner hrest => exact .cons (Nat.le_trans hstart h) hinner hrest
  | cons hstart hinner _ _ ihRest => exact .cons hstart hinner (ihRest hothers)

end Pair.Nested

/-! ## Combinators -/

variable {α β : Type}

/-- The first alternative that reads something decides what is read. -/
theorem outcome_or_else (p q : Parser α) (c : Cursor) :
    (orElse p q c).outcome = (p c).outcome.or (q c).outcome := by
  unfold orElse
  generalize p c = reply
  obtain ⟨_ | ⟨value, after⟩, attempts⟩ := reply <;> rfl

/-- Wherever the parser is run, there are pairs that lie one behind the other in what it reads, and
they are as `P` says for the value. -/
def Parser.Nests (P : List Pair → α → Prop) (p : Parser α) : Prop :=
  ∀ c value after, (p c).outcome = some (value, after) →
    ∃ pairs, Pair.Nested c.bytesLeft after.bytesLeft pairs ∧ P pairs value

namespace Parser.Nests

variable {P : List Pair → α → Prop} {Q : List Pair → β → Prop} {p q : Parser α}

theorem mono {T : List Pair → α → Prop} (h : Nests P p)
    (hT : ∀ pairs value, P pairs value → T pairs value) : Nests T p := by
  intro c value after houtcome
  obtain ⟨pairs, hnested, hP⟩ := h c value after houtcome
  exact ⟨pairs, hnested, hT pairs value hP⟩

theorem pure {value : α} (h : P [] value) : Nests P (Pure.pure value) := by
  intro c other after houtcome
  obtain ⟨rfl, rfl⟩ := Prod.mk.inj (Option.some.inj houtcome)
  exact ⟨[], .nil (Nat.le_refl _), h⟩

theorem fail : Nests P fail :=
  fun _ _ _ houtcome => by cases houtcome

theorem bind {next : α → Parser β} (h : Nests P p)
    (hnext : ∀ first value, P first value →
      Nests (fun second => Q (first ++ second)) (next value)) :
    Nests Q (p >>= next) := by
  intro c result last houtcome
  rw [outcome_bind] at houtcome
  obtain ⟨⟨value, after⟩, hfirst, hsecond⟩ := Option.bind_eq_some_iff.mp houtcome
  obtain ⟨first, hnested, hP⟩ := h c value after hfirst
  obtain ⟨second, hmore, hQ⟩ := hnext first value hP after result last hsecond
  exact ⟨first ++ second, hnested.append hmore, hQ⟩

/-- A parser that leaves no pairs and whose value is not used only moves the place. -/
theorem skip {next : Parser β} (hp : p.Advances) (h : Nests Q next) :
    Nests Q (p >>= fun _ => next) := by
  have hnone : Nests (fun pairs _ => pairs = []) p := by
    intro c value after houtcome
    obtain ⟨⟨first, hfirst⟩, -⟩ := (hp c.rest c (List.suffix_refl _)).outcome value after houtcome
    refine ⟨[], .nil ?_, rfl⟩
    rw [c.agrees, after.agrees, ← hfirst, byte_count_append]
    exact Nat.le_add_left _ _
  refine hnone.bind fun first _ hfirst => ?_
  rw [hfirst]
  exact h

theorem after_char {next : Parser β} (expected : Char) (h : Nests Q next) :
    Nests Q (char expected >>= fun _ => next) :=
  skip (fun _ => StaysIn.char _) h

theorem after_chars {next : Parser β} (expected : List Char) (h : Nests Q next) :
    Nests Q (chars expected >>= fun _ => next) :=
  skip (fun _ => StaysIn.chars _) h

theorem after_blanks {next : Parser β} (h : Nests Q next) :
    Nests Q (blanks >>= fun _ => next) :=
  skip (fun _ => StaysIn.blanks) h

theorem or_else (hp : Nests P p) (hq : Nests P q) : Nests P (orElse p q) := by
  intro c value after houtcome
  rw [outcome_or_else, Option.or_eq_some_iff] at houtcome
  rcases houtcome with houtcome | ⟨-, houtcome⟩
  · exact hp c value after houtcome
  · exact hq c value after houtcome

theorem one_of {parsers : List (Parser α)} (h : ∀ p ∈ parsers, Nests P p) :
    Nests P (oneOf parsers) := by
  induction parsers with
  | nil => exact fail
  | cons p parsers ih =>
      obtain ⟨hp, hparsers⟩ := List.forall_mem_cons.mp h
      exact hp.or_else (ih hparsers)

theorem optional {p : Parser (List Pair)} (h : Nests Eq p) :
    Nests (fun pairs found => pairs = found.getD []) (optional p) := by
  have hsome : Nests (fun pairs found => pairs = found.getD [])
      (p >>= fun value => Pure.pure (some value)) :=
    h.bind fun first value hfirst => pure ((List.append_nil first).trans hfirst)
  exact hsome.or_else (pure rfl)

theorem many {p : Parser (List Pair)} (h : Nests Eq p) :
    Nests (fun pairs parts => pairs = parts.flatten) (many p) := by
  have hlimit : ∀ limit, Nests (fun pairs parts => pairs = parts.flatten) (manyUpTo p limit) := by
    intro limit
    induction limit with
    | zero => exact pure rfl
    | succ limit ih =>
        have hstep : Nests (fun pairs parts => pairs = parts.flatten)
            (p >>= fun part => manyUpTo p limit >>= fun more => Pure.pure (part :: more)) := by
          refine h.bind fun first part hfirst => ih.bind fun second more hsecond => pure ?_
          rw [hfirst, hsecond, List.append_nil, List.flatten_cons]
        exact hstep.or_else (pure rfl)
  exact fun c => hlimit (c.bytesLeft + 1) c

theorem many_spaced {p : Parser (List Pair)} (h : Nests Eq p) :
    Nests (fun pairs parts => pairs = parts.flatten) (manySpaced p) := by
  have hsome : Nests (fun pairs parts => pairs = parts.flatten)
      (p >>= fun first => Parser.many (blanks >>= fun _ => p) >>= fun more =>
        Pure.pure (first :: more)) := by
    refine h.bind fun first part hfirst => h.after_blanks.many.bind
      fun second more hsecond => pure ?_
    rw [hfirst, hsecond, List.append_nil, List.flatten_cons]
  exact hsome.or_else (pure rfl)

/-- The pair of a rule lies around the pairs within it. -/
theorem pair {goal : Goal} {body : Parser (List Pair)} (h : Nests Eq body) :
    Nests Eq (pair goal body) := by
  intro c value after houtcome
  rw [outcome_pair] at houtcome
  obtain ⟨⟨inner, stop⟩, hbody, heq⟩ := Option.map_eq_some_iff.mp houtcome
  obtain ⟨rfl, rfl⟩ := Prod.mk.inj heq
  obtain ⟨_, hnested, rfl⟩ := h c inner stop hbody
  exact ⟨_, .cons (Nat.le_refl _) hnested (.nil (Nat.le_refl _)), rfl⟩

/-- A rule that leaves a single pair only has to move on. -/
theorem token {goal : Goal} {body : Parser α} (h : body.Advances) :
    Nests Eq (token goal body) :=
  pair (skip h (pure rfl))

/-- What a parser that leaves pairs leaves behind it, with the pairs of another parser behind
them. -/
theorem append {p q : Parser (List Pair)} (hp : Nests Eq p) (hq : Nests Eq q) :
    Nests Eq (p >>= fun first => q >>= fun second => Pure.pure (first ++ second)) := by
  refine hp.bind fun first _ hfirst => hq.bind fun second _ hsecond => pure ?_
  rw [hfirst, hsecond, List.append_nil]

end Parser.Nests

/-! ## Names, literals and operators -/

theorem name_nests (goal : Goal) : Nests Eq (token goal ident) :=
  .token fun _ => ident_stays.mono fun _ _ => trivial

theorem integer_nests : Nests Eq Rules.integer :=
  .token fun source => (sign_advances source).bind fun _ _ => digits_advance source

theorem decimal_nests : Nests Eq Rules.decimal :=
  .token fun source => (sign_advances source).bind fun _ _ => (digits_advance source).bind
    fun _ _ => (StaysIn.char _).bind fun _ _ => digits_advance source

theorem timestamp_nests : Nests Eq Rules.timestamp :=
  .token fun source => (date_advances source).bind fun _ _ => (StaysIn.char _).bind fun _ _ =>
    (time_advances source).bind fun _ _ => (offset_advances source).optional.mono
      fun _ _ => trivial

theorem boolean_nests : Nests Eq Rules.boolean :=
  .token fun _ => ((word_stays _).or_else (word_stays _)).bind fun _ _ => StaysIn.absent _

theorem string_part_advances : stringPart.Advances :=
  fun _ => StaysIn.or_else ((StaysIn.satisfy _).bind fun _ _ => .pure trivial)
    ((StaysIn.char _).bind fun _ _ => (StaysIn.satisfy _).bind fun _ _ => .pure trivial)

theorem string_nests : Nests Eq Rules.string := by
  have hcontent : Nests Eq Rules.stringContent :=
    .token fun source => (string_part_advances source).many.mono fun _ _ => trivial
  exact .pair <| .after_char _ <| hcontent.bind fun first _ hfirst => .after_char _ <|
    .pure ((List.append_nil first).trans hfirst)

theorem literal_nests : Nests Eq Rules.literal := by
  refine string_nests.or_else (.one_of ?_)
  simp only [List.forall_mem_cons]
  exact ⟨timestamp_nests, decimal_nests, integer_nests, boolean_nests, List.forall_mem_nil _⟩

theorem capture_nests : Nests Eq Rules.capture :=
  .pair <| .after_char _ <| .token digits_advance

theorem infix_op_nests : Nests Eq Rules.infixOp := by
  have hsymbol : ∀ goal symbol, Nests Eq (token goal (chars symbol)) :=
    fun _ _ => .token fun _ => StaysIn.chars _
  have hnotEqual : Nests Eq (token .notEqual (orElse (chars ['!', '=']) (chars ['<', '>']))) :=
    .token fun _ => (StaysIn.chars _).or_else (StaysIn.chars _)
  refine .one_of ?_
  simp only [List.forall_mem_cons, hsymbol, hnotEqual, true_and]
  exact List.forall_mem_nil _

/-! ## Expressions -/

section

variable {inner call group : Parser (List Pair)} (h : Nests Eq inner)

include h

theorem grouped_nests : Nests Eq (Rules.grouped inner) :=
  .after_char _ <| .after_blanks <| h.bind fun pairs _ hpairs => .after_blanks <|
    .after_char _ <| .pure ((List.append_nil pairs).trans hpairs)

theorem separated_nests : Nests Eq (Rules.separated inner) := by
  have hnext : Nests Eq (char ',' >>= fun _ => blanks >>= fun _ => inner) :=
    .after_char _ <| .after_blanks h
  have hall : Nests Eq (inner >>= fun first => blanks >>= fun _ =>
      manySpaced (char ',' >>= fun _ => blanks >>= fun _ => inner) >>= fun more =>
        pure (first ++ more.flatten)) := by
    refine h.bind fun pairs first hfirst => .after_blanks <| hnext.many_spaced.bind
      fun others more hmore => .pure ?_
    rw [hfirst, hmore, List.append_nil]
  exact hall.optional.bind fun pairs _ hpairs => .pure ((List.append_nil pairs).trans hpairs)

theorem list_nests : Nests Eq (Rules.list inner) :=
  .pair <| .after_char _ <| .after_blanks <| (separated_nests h).bind fun pairs _ hpairs =>
    .after_blanks <| .after_char _ <| .pure ((List.append_nil pairs).trans hpairs)

theorem function_call_nests : Nests Eq (Rules.functionCall inner) := by
  have harguments : Nests Eq (Rules.callArguments inner) :=
    .pair <| .after_char _ <| .after_blanks <| (separated_nests h).bind fun pairs _ hpairs =>
      .after_blanks <| .after_char _ <| .pure ((List.append_nil pairs).trans hpairs)
  exact .pair <| (name_nests _).append harguments

theorem lambda_nests : Nests Eq (Rules.lambda inner) :=
  .pair <| .after_char _ <| .pair <| (grouped_nests h).or_else (list_nests h)

theorem bound_nests : Nests Eq (Rules.bound (Rules.functionCall inner) (Rules.grouped inner)) := by
  refine .one_of ?_
  simp only [List.forall_mem_cons]
  exact ⟨integer_nests, capture_nests, function_call_nests h, name_nests _, grouped_nests h,
    List.forall_mem_nil _⟩

theorem range_nests :
    Nests Eq (Rules.range inner (Rules.functionCall inner) (Rules.grouped inner)) := by
  have hstep : Nests Eq (chars ['/', '/'] >>= fun _ => blanks >>= fun _ =>
      Rules.bound (Rules.functionCall inner) (Rules.grouped inner)) :=
    .after_chars _ <| .after_blanks <| bound_nests h
  refine .pair <| (bound_nests h).bind fun first _ hfirst => .after_blanks <| .after_chars _ <|
    .after_blanks <| (bound_nests h).bind fun second _ hsecond => .after_blanks <|
      hstep.optional.bind fun third _ hthird => .pure ?_
  rw [hfirst, hsecond, hthird, List.append_nil]

/-- An operand reads a call and a group where it begins, so that sharing them is reading them. -/
theorem primary_nests : Nests Eq (Rules.primary inner) := by
  have heq : Rules.primary inner = oneOf
      [Rules.range inner (Rules.functionCall inner) (Rules.grouped inner), Rules.capture,
        Rules.lambda inner, Rules.list inner, Rules.grouped inner, Rules.literal,
        Rules.functionCall inner, Rules.atom] := rfl
  rw [heq]
  refine .one_of ?_
  simp only [List.forall_mem_cons]
  exact ⟨range_nests h, capture_nests, lambda_nests h, list_nests h, grouped_nests h,
    literal_nests, function_call_nests h, name_nests _, List.forall_mem_nil _⟩

theorem postfix_op_nests : Nests Eq (Rules.postfixOp inner) := by
  have hattribute : Nests Eq Rules.attributeOp := .pair <| .after_char _ <| name_nests _
  exact hattribute.or_else <| .pair <| .after_char _ <| .after_blanks <|
    h.bind fun pairs _ hpairs => .after_blanks <| .after_char _ <|
      .pure ((List.append_nil pairs).trans hpairs)

theorem operand_nests : Nests Eq (Rules.operand inner) := by
  refine (primary_nests h).bind fun first _ hfirst => .after_blanks <|
    (postfix_op_nests h).many_spaced.bind fun second _ hsecond => .pure ?_
  rw [hfirst, hsecond, List.append_nil]

theorem expression_over_nests : Nests Eq (Rules.expressionOver inner) := by
  have hoperation : Nests Eq (Rules.operation inner) := by
    refine infix_op_nests.bind fun first _ hfirst => .after_blanks <|
      (operand_nests h).bind fun second _ hsecond => .pure ?_
    rw [hfirst, hsecond, List.append_nil]
  refine .pair <| (operand_nests h).bind fun first _ hfirst => .after_blanks <|
    hoperation.many_spaced.bind fun second _ hsecond => .pure ?_
  rw [hfirst, hsecond, List.append_nil]

end

theorem expression_within_nests (depth : Nat) : Nests Eq (Rules.expressionWithin depth) := by
  induction depth with
  | zero => exact .fail
  | succ depth ih => exact expression_over_nests ih

/-- The pairs of an expression lie one behind the other. -/
theorem expression_nests : Nests Eq Rules.expression :=
  fun c => expression_within_nests (c.bytesLeft + 1) c

/-! ## Templates -/

theorem segment_nests : Nests Eq Rules.segment := by
  have hescaped : Nests Eq Rules.escapedAt := .token fun _ => StaysIn.chars _
  have hblock : Nests Eq Rules.expressionBlock :=
    .pair <| .after_chars _ <| .after_blanks <| expression_nests.bind fun pairs _ hpairs =>
      .after_blanks <| .after_char _ <| .pure ((List.append_nil pairs).trans hpairs)
  have hbare : Nests Eq Rules.bareExpression := by
    refine .pair <| .after_char _ <|
      ((function_call_nests expression_nests).or_else (name_nests _)).bind fun first _ hfirst =>
        (postfix_op_nests expression_nests).many.bind fun second _ hsecond => .pure ?_
    rw [hfirst, hsecond, List.append_nil]
  have hplain : Nests Eq Rules.plainText :=
    .token fun _ => ((StaysIn.take_while1 _).mono fun _ _ => trivial).or_else <|
      (StaysIn.char _).bind fun _ _ => (StaysIn.absent _).bind fun _ _ => .pure trivial
  refine .one_of ?_
  simp only [List.forall_mem_cons]
  exact ⟨hescaped, hblock, hbare, hplain, List.forall_mem_nil _⟩

theorem the_end_nests : Nests Eq Rules.theEnd :=
  .token fun _ => StaysIn.end_of_input

/-- The pairs of a whole template lie one behind the other. -/
theorem whole_template_nests : Nests Eq Rules.wholeTemplate := by
  refine .pair <| segment_nests.many.bind fun first _ hfirst => the_end_nests.bind
    fun second _ hsecond => .pure ?_
  rw [hfirst, hsecond, List.append_nil]

/-- The pairs of a whole expression lie one behind the other. -/
theorem whole_expression_nests : Nests Eq Rules.wholeExpression := by
  refine .pair <| .after_blanks <| expression_nests.bind fun first _ hfirst => .after_blanks <|
    the_end_nests.bind fun second _ hsecond => .pure ?_
  rw [hfirst, hsecond, List.append_nil]

end TextTemplate.Grammar
