import TextTemplate.Proofs.Grammar.Brackets
import TextTemplate.Proofs.Grammar.Operands

/-!
# Enclosed expressions

Every rule of the grammar reads the same in front of a closing parenthesis as at the end of the
source, when the characters in front of it close every bracket that they open. The rules are gone
through one by one (`literal_follows` up to `expression_over_follows`), with
`Parser.Follows` as the statement about each. At the end of the source the same statement says that
the bound on the levels of nesting does not matter (`expression_within_follows`), and that what is
read closes its brackets (`openings_of_expression`).
-/

namespace TextTemplate.Grammar

open TextTemplate.Grammar.Parser

variable {e : Ending} {n depth : Nat}

/-! ## Names and numbers -/

theorem ident_follows : Follows e (Fits e n depth) (Fits e n depth) id ident ident :=
  .of_consuming fun _ _ => (Follows.satisfy_plain rfl).bind fun _ =>
    (Follows.take_while rfl).bind fun _ => .pure rfl

theorem atom_follows :
    Follows e (Fits e n depth) (Fits e n depth) (Phrase.moved (byteCount e.tail)) atom atom :=
  .rule (ident_follows.bind fun _ => .pure rfl)

theorem digits_follow : Follows e (Fits e n depth) (Fits e n depth) id digits digits :=
  (Follows.take_while1 rfl).bind fun _ => .pure rfl

/-- A plain character may also be read where any number of characters is left. -/
theorem char_follows {c : Char} (h : isPlain c) :
    Follows e (Fits e n depth) (Fits e n depth) id (char c) (char c) :=
  .of_consuming fun _ _ => Follows.char_plain h

theorem satisfy_follows {test : Char → Bool} (h : bracketChars.all (!test ·)) :
    Follows e (Fits e n depth) (Fits e n depth) id (satisfy test) (satisfy test) :=
  .of_consuming fun _ _ => Follows.satisfy_plain h

theorem sign_follows : Follows e (Fits e n depth) (Fits e n depth) id sign sign :=
  (char_follows rfl).optional.bind fun _ => .pure rfl

theorem integer_follows :
    Follows e (Fits e n depth) (Fits e n depth) (Phrase.moved (byteCount e.tail)) integer
      integer := by
  have hbody : Follows e (Fits e n depth) (Fits e n depth) id (do sign; digits)
      (do sign; digits) := sign_follows.bind fun _ => digits_follow
  exact .rule (hbody.lexeme.bind fun _ => .pure rfl)

theorem decimal_follows :
    Follows e (Fits e n depth) (Fits e n depth) (Phrase.moved (byteCount e.tail)) decimal
      decimal := by
  have hbody : Follows e (Fits e n depth) (Fits e n depth) id
      (do sign; digits; let _ ← char '.'; digits) (do sign; digits; let _ ← char '.'; digits) :=
    sign_follows.bind fun _ => digits_follow.bind fun _ => (char_follows rfl).bind fun _ =>
      digits_follow
  exact .rule (hbody.lexeme.bind fun _ => .pure rfl)

/-! ## Timestamps and truth values -/

theorem date_follows : Follows e (Fits e n depth) (Fits e n depth) id date date :=
  (Follows.exactly rfl _).bind fun _ => (char_follows rfl).bind fun _ =>
    (Follows.exactly rfl _).bind fun _ => (char_follows rfl).bind fun _ => Follows.exactly rfl _

theorem second_follows : Follows e (Fits e n depth) (Fits e n depth) id second second := by
  have hfraction : Follows e (Fits e n depth) (Fits e n depth) id secondFraction secondFraction :=
    (char_follows rfl).bind fun _ => digits_follow
  exact (char_follows rfl).bind fun _ => (Follows.exactly rfl _).bind fun _ =>
    hfraction.optional.bind fun _ => .pure rfl

theorem time_follows : Follows e (Fits e n depth) (Fits e n depth) id time time :=
  (Follows.exactly rfl _).bind fun _ => (char_follows rfl).bind fun _ =>
    (Follows.exactly rfl _).bind fun _ => second_follows.optional.bind fun _ => .pure rfl

theorem offset_follows : Follows e (Fits e n depth) (Fits e n depth) id offset offset := by
  have hnumeric : Follows e (Fits e n depth) (Fits e n depth) id numericOffset numericOffset :=
    (satisfy_follows rfl).bind fun _ => (Follows.exactly rfl _).bind fun _ =>
      (char_follows rfl).optional.bind fun _ => Follows.exactly rfl _
  exact .or_else ((satisfy_follows rfl).bind fun _ => .pure rfl) hnumeric

theorem timestamp_follows :
    Follows e (Fits e n depth) (Fits e n depth) (Phrase.moved (byteCount e.tail)) timestamp
      timestamp := by
  have hbody : Follows e (Fits e n depth) (Fits e n depth) (Option.map id)
      (do date; let _ ← char 'T'; time; optional offset)
      (do date; let _ ← char 'T'; time; optional offset) :=
    date_follows.bind fun _ => (char_follows rfl).bind fun _ => time_follows.bind fun _ =>
      offset_follows.optional
  exact .rule (hbody.lexeme.bind fun _ => .pure rfl)

/-- A letter is no bracket in either case. -/
theorem not_to_lower_of_letter {letter : Char} (h : isLetter letter) :
    bracketChars.all fun c => !(c.toLower == letter) := by
  refine List.all_eq_true.mpr fun c hc => ?_
  rw [Bool.not_eq_true', beq_eq_false_iff_ne]
  rintro rfl
  have hletters : bracketChars.all (!isLetter ·.toLower) := rfl
  exact absurd h (Bool.eq_false_iff.mp (not_of_mem (p := fun c => isLetter c.toLower) hletters hc))

theorem word_follows {letters : List Char} (h : letters.all isLetter) :
    Follows e (Fits e n depth) (Fits e n depth) id (word letters) (word letters) := by
  induction letters with
  | nil => exact .pure rfl
  | cons letter letters ih =>
      obtain ⟨hletter, hletters⟩ := Bool.and_eq_true_iff.mp h
      exact (satisfy_follows (not_to_lower_of_letter hletter)).bind fun _ => ih hletters

theorem boolean_follows :
    Follows e (Fits e n depth) (Fits e n depth) (Phrase.moved (byteCount e.tail)) boolean
      boolean := by
  have hword : ∀ letters (value : Bool), letters.all isLetter →
      Follows e (Fits e n depth) (Fits e n depth) id (do word letters; return value)
        (do word letters; return value) :=
    fun _ _ h => (word_follows h).bind fun _ => .pure rfl
  exact .rule (((hword _ _ rfl).or_else (hword _ _ rfl)).bind fun _ =>
    (Follows.absent rfl).bind fun _ => .pure rfl)

/-! ## Strings -/

/-- What a string holds from the given characters on, up to the quote that ends it, with what stands
behind the quote. -/
def stringEnd? : List Char → Option (List Char × List Char)
  | [] => none
  | '\\' :: c :: cs => (stringEnd? cs).map fun (content, rest) => ('\\' :: c :: content, rest)
  | c :: cs =>
    if c = '"' then some ([], cs)
    else (stringEnd? cs).map fun (content, rest) => (c :: content, rest)

/-- The parts of a string are all that stands in front of its end. -/
theorem exists_string_parts (cs : List Char) :
    ∃ parts last, ReadsMany stringPart cs parts last ∧
      stringEnd? cs = ((char '"').reads? last).map fun (_, rest) => (parts.flatten, rest) := by
  fun_induction stringEnd? cs with
  | case1 => exact ⟨[], [], .stop rfl, rfl⟩
  | case2 c cs ih =>
      obtain ⟨parts, last, hmany, hend⟩ := ih
      have hpart : stringPart.reads? ('\\' :: c :: cs) = some (['\\', c], cs) := by
        simp [stringPart]
      have hless : cs.length < ('\\' :: c :: cs).length := by
        simp only [List.length_cons]
        omega
      refine ⟨['\\', c] :: parts, last, .step hpart hless hmany, ?_⟩
      rw [hend, Option.map_map]
      rfl
  | case3 cs _ =>
      have hpart : stringPart.reads? ('"' :: cs) = none := by simp [stringPart]
      exact ⟨[], _, .stop hpart, by simp⟩
  | case4 c cs hescape hquote ih =>
      by_cases hbackslash : c = '\\'
      · subst hbackslash
        -- A backslash at the very end stands before no character.
        cases cs with
        | nil => exact ⟨[], ['\\'], .stop rfl, rfl⟩
        | cons d cs => exact absurd rfl (hescape d cs rfl)
      · obtain ⟨parts, last, hmany, hend⟩ := ih
        have hpart : stringPart.reads? (c :: cs) = some ([c], cs) := by
          simp [stringPart, hquote, hbackslash]
        refine ⟨[c] :: parts, last, .step hpart (by simp only [List.length_cons]; omega) hmany, ?_⟩
        rw [hend, Option.map_map]
        rfl

/-- A string ends where `stringEnd?` says. -/
theorem reads?_string_eq (cs : List Char) :
    string.reads? ('"' :: cs) =
      (stringEnd? cs).map fun (content, rest) => (.string (unescaped content), rest) := by
  obtain ⟨parts, last, hmany, hend⟩ := exists_string_parts cs
  rw [hend, Option.map_map]
  cases hquote : (char '"').reads? last <;>
    simp [string, stringContent, reads?_many hmany, hquote]

/-- A parenthesis behind them ends no string. -/
theorem string_end?_append (e : Ending) (cs : List Char) :
    stringEnd? (cs ++ e.tail) =
      (stringEnd? cs).map fun (content, rest) => (content, rest ++ e.tail) := by
  fun_induction stringEnd? cs with
  | case1 =>
      obtain htail | ⟨htail, -⟩ := e.closes <;> rw [htail] <;> rfl
  | case2 c cs ih =>
      rw [List.cons_append, List.cons_append, stringEnd?, ih, Option.map_map, Option.map_map]
      rfl
  | case3 cs _ =>
      rfl
  | case4 c cs hescape hquote ih =>
      cases cs with
      | nil =>
          obtain htail | ⟨htail, -⟩ := e.closes
          · simp [htail, stringEnd?, hquote]
          · by_cases hbackslash : c = '\\' <;> simp [htail, stringEnd?, hquote, hbackslash]
      | cons d cs =>
          have hbackslash : c ≠ '\\' := fun h => hescape d cs h rfl
          rw [List.cons_append, stringEnd?, if_neg hquote, ih, Option.map_map, Option.map_map]
          · rfl
          · exact fun _ _ h _ => hbackslash h

/-- A string closes none of the brackets around it. -/
theorem openings_of_string_end? {cs content rest : List Char}
    (h : stringEnd? cs = some (content, rest)) :
    openings rest = openingsInString cs ∧ rest.length < cs.length := by
  fun_induction stringEnd? cs generalizing content with
  | case1 => cases h
  | case2 c cs ih =>
      obtain ⟨⟨more, after⟩, hend, heq⟩ := Option.map_eq_some_iff.mp h
      obtain ⟨-, rfl⟩ := Prod.mk.inj heq
      obtain ⟨hopenings, hlength⟩ := ih hend
      refine ⟨hopenings.trans (openingsInString.eq_2 c cs).symm, ?_⟩
      simp only [List.length_cons]
      omega
  | case3 cs hescape =>
      obtain ⟨-, rfl⟩ := Prod.mk.inj (Option.some.inj h)
      rw [openingsInString.eq_3 _ _ hescape, if_pos rfl]
      exact ⟨rfl, Nat.lt_succ_self _⟩
  | case4 c cs hescape hquote ih =>
      obtain ⟨⟨more, after⟩, hend, heq⟩ := Option.map_eq_some_iff.mp h
      obtain ⟨-, rfl⟩ := Prod.mk.inj heq
      obtain ⟨hopenings, hlength⟩ := ih hend
      rw [openingsInString.eq_3 _ _ hescape, if_neg hquote]
      exact ⟨hopenings, Nat.lt_succ_of_lt hlength⟩

theorem string_follows :
    Follows e (Fits e n depth) (Fits e n depth) (Phrase.moved (byteCount e.tail)) string
      string where
  reads := by
    intro cs _
    cases cs with
    | nil =>
        have hstops : Stops (· == '"') e.tail := e.stops rfl
        rw [List.nil_append, reads?_string_eq_none hstops]
        rfl
    | cons c cs =>
        by_cases hquote : c = '"'
        · subst hquote
          rw [List.cons_append, reads?_string_eq, reads?_string_eq, string_end?_append,
            Option.map_map, Option.map_map]
          rfl
        · rw [List.cons_append, reads?_string_eq_none (.of_ne hquote _),
            reads?_string_eq_none (.of_ne hquote _)]
          rfl
  leaves := by
    intro cs value rest hcs heq
    cases cs with
    | nil => cases heq
    | cons c cs =>
        by_cases hquote : c = '"'
        · subst hquote
          rw [reads?_string_eq] at heq
          obtain ⟨⟨content, after⟩, hend, heq⟩ := Option.map_eq_some_iff.mp heq
          obtain ⟨-, rfl⟩ := Prod.mk.inj heq
          obtain ⟨hopenings, hlength⟩ := openings_of_string_end? hend
          have hbalance := hcs.balance
          rw [openings, if_pos rfl, ← hopenings] at hbalance
          exact ⟨Nat.lt_trans hlength (Nat.lt_of_succ_lt hcs.length), hbalance⟩
        · rw [reads?_string_eq_none (.of_ne hquote cs)] at heq
          cases heq

theorem literal_follows :
    Follows e (Fits e n depth) (Fits e n depth) (Phrase.moved (byteCount e.tail)) literal
      literal :=
  string_follows.or_else (.one_of (.cons timestamp_follows (.cons decimal_follows
    (.cons integer_follows (.cons boolean_follows .nil)))))

/-! ## Captures and operators -/

theorem capture_follows :
    Follows e (Fits e n depth) (Fits e n depth) (Phrase.moved (byteCount e.tail)) capture
      capture := by
  have hbody : Follows e (Fits e n depth) (Fits e n depth) id
      (do let _ ← char '&'; rule .captureIndex digits)
      (do let _ ← char '&'; rule .captureIndex digits) :=
    (char_follows rfl).bind fun _ => digits_follow.rule
  exact .rule (hbody.lexeme.bind fun _ => .pure rfl)

/-- An operator takes a character at least. -/
theorem binary_op_follows :
    Follows e (Fits e (n + 1) depth) (Fits e n depth) id binaryOp binaryOp := by
  have hoperator : ∀ goal op c more, (c :: more).all isPlain →
      Follows e (Fits e (n + 1) depth) (Fits e n depth) id (operator goal op (c :: more))
        (operator goal op (c :: more)) :=
    fun _ _ _ _ h => .rule ((Follows.chars_plain h).bind fun _ => .pure rfl)
  have hnotEqual : Follows e (Fits e (n + 1) depth) (Fits e n depth) id
      (rule .notEqual do
        orElse (chars ['!', '=']) (chars ['<', '>'])
        return BinaryOp.ne)
      (rule .notEqual do
        orElse (chars ['!', '=']) (chars ['<', '>'])
        return BinaryOp.ne) :=
    .rule (((Follows.chars_plain rfl).or_else (Follows.chars_plain rfl)).bind fun _ => .pure rfl)
  exact .one_of (.cons (hoperator _ _ _ _ rfl) (.cons hnotEqual (.cons (hoperator _ _ _ _ rfl)
    (.cons (hoperator _ _ _ _ rfl) (.cons (hoperator _ _ _ _ rfl) (.cons (hoperator _ _ _ _ rfl)
    (.cons (hoperator _ _ _ _ rfl) (.cons (hoperator _ _ _ _ rfl) (.cons (hoperator _ _ _ _ rfl)
    (.cons (hoperator _ _ _ _ rfl) (.cons (hoperator _ _ _ _ rfl) (.cons (hoperator _ _ _ _ rfl)
    .nil))))))))))))

/-! ## Expressions

In this section two ways of reading nested expressions are compared on less than `n` characters. -/

section

variable {inner inner' : Parser Phrase}
  (hinner : ∀ m < n, ∀ depth,
    Follows e (Fits e m depth) (Fits e m depth) (Phrase.moved (byteCount e.tail)) inner inner')

include hinner

theorem grouped_follows :
    Follows e (Fits e n depth) (Fits e n depth) (Phrase.moved (byteCount e.tail)) (grouped inner)
      (grouped inner') :=
  .of_consuming fun m hm => (Follows.char_opening (.inl rfl)).bind fun _ =>
    Follows.blanks.bind fun _ => (hinner m hm _).bind fun _ => Follows.blanks.bind fun _ =>
      (Follows.char_closing (.inl rfl)).bind fun _ => .pure rfl

theorem separated_follows {m : Nat} (hm : m < n) :
    Follows e (Fits e m depth) (Fits e m depth) (List.map (Phrase.moved (byteCount e.tail)))
      (separated inner) (separated inner') := by
  have hmore : ∀ l < m, Follows e (Fits e (l + 1) depth) (Fits e l depth)
      (Phrase.moved (byteCount e.tail)) (do let _ ← char ','; blanks; inner)
      (do let _ ← char ','; blanks; inner') :=
    fun l hl => (Follows.char_plain rfl).bind fun _ => Follows.blanks.bind fun _ =>
      hinner l (Nat.lt_trans hl hm) _
  have hphrases : Follows e (Fits e m depth) (Fits e m depth)
      (List.map (Phrase.moved (byteCount e.tail)))
      (do
        let first ← inner
        blanks
        let more ← manySpaced do
          let _ ← char ','
          blanks
          inner
        return first :: more)
      (do
        let first ← inner'
        blanks
        let more ← manySpaced do
          let _ ← char ','
          blanks
          inner'
        return first :: more) :=
    (hinner m hm _).bind fun _ => Follows.blanks.bind fun _ =>
      (Follows.many_spaced hmore).bind fun _ => .pure rfl
  refine hphrases.optional.bind fun found => .pure ?_
  cases found <;> rfl

theorem list_follows :
    Follows e (Fits e n depth) (Fits e n depth) (Phrase.moved (byteCount e.tail)) (list inner)
      (list inner') := by
  refine Follows.rule (.of_consuming fun m hm => (Follows.char_opening (.inr rfl)).bind fun _ =>
    Follows.blanks.bind fun _ => (separated_follows hinner hm).bind fun items =>
      Follows.blanks.bind fun _ => (Follows.char_closing (.inr rfl)).bind fun _ => .pure ?_)
  rw [Phrase.moved, Phrase.moved_all_eq]

theorem call_arguments_follow :
    Follows e (Fits e n depth) (Fits e n depth) (List.map (Phrase.moved (byteCount e.tail)))
      (callArguments inner) (callArguments inner') :=
  Follows.rule (.of_consuming fun _ hm => (Follows.char_opening (.inl rfl)).bind fun _ =>
    Follows.blanks.bind fun _ => (separated_follows hinner hm).bind fun _ =>
      Follows.blanks.bind fun _ => (Follows.char_closing (.inl rfl)).bind fun _ => .pure rfl)

theorem function_call_follows :
    Follows e (Fits e n depth) (Fits e n depth) (Phrase.moved (byteCount e.tail))
      (functionCall inner) (functionCall inner') := by
  refine Follows.rule (ident_follows.rule.bind fun name =>
    (call_arguments_follow hinner).bind fun args => .pure ?_)
  rw [Phrase.moved, Phrase.moved_all_eq]
  rfl

theorem lambda_follows :
    Follows e (Fits e n depth) (Fits e n depth) (Phrase.moved (byteCount e.tail)) (lambda inner)
      (lambda inner') :=
  Follows.rule ((char_follows rfl).bind fun _ =>
    (Follows.rule ((grouped_follows hinner).or_else (list_follows hinner))).bind fun _ =>
      .pure rfl)

theorem bound_follows :
    Follows e (Fits e n depth) (Fits e n depth) (Phrase.moved (byteCount e.tail))
      (bound (functionCall inner) (grouped inner)) (bound (functionCall inner') (grouped inner')) :=
  .one_of (.cons integer_follows (.cons capture_follows (.cons (function_call_follows hinner)
    (.cons atom_follows (.cons (grouped_follows hinner) .nil)))))

theorem range_follows :
    Follows e (Fits e n depth) (Fits e n depth) (Phrase.moved (byteCount e.tail))
      (range inner (functionCall inner) (grouped inner))
      (range inner' (functionCall inner') (grouped inner')) := by
  have hsymbol : ∀ c more, (c :: more).all isPlain →
      Follows e (Fits e n depth) (Fits e n depth) id (chars (c :: more)) (chars (c :: more)) :=
    fun _ _ h => .of_consuming fun _ _ => Follows.chars_plain h
  have hstep : Follows e (Fits e n depth) (Fits e n depth) (Phrase.moved (byteCount e.tail))
      (do
        chars ['/', '/']
        blanks
        bound (functionCall inner) (grouped inner))
      (do
        chars ['/', '/']
        blanks
        bound (functionCall inner') (grouped inner')) :=
    (hsymbol _ _ rfl).bind fun _ => Follows.blanks.bind fun _ => bound_follows hinner
  refine Follows.rule ((bound_follows hinner).bind fun start => Follows.blanks.bind fun _ =>
    (hsymbol _ _ rfl).bind fun _ => Follows.blanks.bind fun _ =>
      (bound_follows hinner).bind fun stop => Follows.blanks.bind fun _ =>
        hstep.optional.bind fun step => .pure ?_)
  rw [Phrase.moved, Phrase.moved_step_eq]

theorem primary_follows :
    Follows e (Fits e n depth) (Fits e n depth) (Phrase.moved (byteCount e.tail)) (primary inner)
      (primary inner') := by
  have hrange : Follows e (Fits e n depth) (Fits e n depth) (Phrase.moved (byteCount e.tail))
      (range inner (functionCall inner) (grouped inner))
      (range inner' (functionCall inner') (grouped inner')) := range_follows hinner
  have halternatives := Follows.one_of (.cons hrange (.cons capture_follows
    (.cons (lambda_follows hinner) (.cons (list_follows hinner) (.cons (grouped_follows hinner)
      (.cons literal_follows (.cons (function_call_follows hinner) (.cons atom_follows .nil))))))))
  exact halternatives.of_reads?_eq (reads?_primary inner) (reads?_primary inner')

end

section

variable {inner inner' : Parser Phrase}
  (hinner : ∀ m < n + 1, ∀ depth,
    Follows e (Fits e m depth) (Fits e m depth) (Phrase.moved (byteCount e.tail)) inner inner')

include hinner

/-- What follows an operand takes a character at least. -/
theorem suffix_follows :
    Follows e (Fits e (n + 1) depth) (Fits e n depth) (Suffix.moved (byteCount e.tail))
      (suffix inner) (suffix inner') := by
  have hproperty : Follows e (Fits e (n + 1) depth) (Fits e n depth)
      (Suffix.moved (byteCount e.tail)) property property :=
    .rule ((Follows.char_plain rfl).bind fun _ => ident_follows.rule.bind fun _ => .pure rfl)
  exact hproperty.or_else (.rule ((Follows.char_opening (.inr rfl)).bind fun _ =>
    Follows.blanks.bind fun _ => (hinner n (Nat.lt_succ_self n) _).bind fun _ =>
      Follows.blanks.bind fun _ => (Follows.char_closing (.inr rfl)).bind fun _ => .pure rfl))

end

section

variable {inner inner' : Parser Phrase}

theorem operand_follows
    (hinner : ∀ m < n, ∀ depth, Follows e (Fits e m depth) (Fits e m depth)
      (Phrase.moved (byteCount e.tail)) inner inner') :
    Follows e (Fits e n depth) (Fits e n depth) (Phrase.moved (byteCount e.tail)) (operand inner)
      (operand inner') := by
  have hsuffix : ∀ m < n, Follows e (Fits e (m + 1) depth) (Fits e m depth)
      (Suffix.moved (byteCount e.tail)) (suffix inner) (suffix inner') :=
    fun m hm => suffix_follows fun l hl => hinner l (Nat.lt_of_lt_of_le hl hm)
  exact (primary_follows hinner).bind fun subject => Follows.blanks.bind fun _ =>
    (Follows.many_spaced hsuffix).bind fun suffixes =>
      .pure (attach_all_moved (byteCount e.tail) suffixes subject)

theorem expression_over_follows
    (hinner : ∀ m < n, ∀ depth, Follows e (Fits e m depth) (Fits e m depth)
      (Phrase.moved (byteCount e.tail)) inner inner') :
    Follows e (Fits e n depth) (Fits e n depth) (Phrase.moved (byteCount e.tail))
      (expressionOver inner) (expressionOver inner') := by
  have hoperation : ∀ m < n, Follows e (Fits e (m + 1) depth) (Fits e m depth)
      (Prod.map id (Phrase.moved (byteCount e.tail))) (operation inner) (operation inner') :=
    fun m hm => binary_op_follows.bind fun _ => Follows.blanks.bind fun _ =>
      (operand_follows fun l hl => hinner l (Nat.lt_trans hl hm)).bind fun _ => .pure rfl
  refine .rule ((operand_follows hinner).bind fun first => Follows.blanks.bind fun _ =>
    (Follows.many_spaced hoperation).bind fun more => .pure ?_)
  rw [Phrase.moved, Phrase.moved_chain_eq]

end

/-- Levels of nesting that are not less than the characters are levels enough. -/
theorem expression_within_follows {levels levels' : Nat} (hlevels : n ≤ levels)
    (hlevels' : n ≤ levels') :
    Follows e (Fits e n depth) (Fits e n depth) (Phrase.moved (byteCount e.tail))
      (expressionWithin levels) (expressionWithin levels') := by
  induction n using Nat.strongRecOn generalizing levels levels' depth with
  | ind n ih =>
      cases n with
      | zero =>
          have hnone : ∀ cs, ¬ Fits e 0 depth cs := fun _ hcs => Nat.not_lt_zero _ hcs.length
          exact ⟨fun cs hcs => absurd hcs (hnone cs), fun cs _ _ hcs => absurd hcs (hnone cs)⟩
      | succ n =>
          obtain ⟨levels, rfl⟩ := Nat.exists_eq_add_of_le' hlevels
          obtain ⟨levels', rfl⟩ := Nat.exists_eq_add_of_le' hlevels'
          have hinner : ∀ m < n + 1, ∀ depth, Follows e (Fits e m depth) (Fits e m depth)
              (Phrase.moved (byteCount e.tail)) (expressionWithin (levels + n))
              (expressionWithin (levels' + n)) :=
            fun m hm depth => ih m hm (by omega) (by omega)
          exact expression_over_follows hinner

/-- An expression is the same with other levels of nesting, if they are enough. -/
theorem expression_follows_within {levels : Nat} (hlevels : n ≤ levels) :
    Follows e (Fits e n depth) (Fits e n depth) (Phrase.moved (byteCount e.tail)) expression
      (expressionWithin levels) := by
  -- The levels that `expression` starts with depend on the characters.
  have hwithin : ∀ cs, Fits e n depth cs → Follows e (Fits e (cs.length + 1) depth)
      (Fits e (cs.length + 1) depth) (Phrase.moved (byteCount e.tail))
      (expressionWithin (byteCount cs + 1)) (expressionWithin levels) :=
    fun cs hcs => expression_within_follows (Nat.succ_le_succ (length_le_byte_count cs))
      (Nat.le_trans hcs.length hlevels)
  constructor
  · intro cs hcs
    rw [reads?_expression]
    exact (hwithin cs hcs).reads cs ⟨Nat.lt_succ_self _, hcs.balance⟩
  · intro cs value rest hcs heq
    rw [reads?_expression] at heq
    have hrest := (hwithin cs hcs).leaves cs value rest ⟨Nat.lt_succ_self _, hcs.balance⟩ heq
    exact hrest.mono hcs.length

theorem expression_follows :
    Follows e (Fits e n depth) (Fits e n depth) (Phrase.moved (byteCount e.tail)) expression
      expression := by
  constructor
  · intro cs hcs
    have hbytes : byteCount cs ≤ byteCount (cs ++ e.tail) := by
      rw [byte_count_append]
      exact Nat.le_add_right _ _
    have hlength : cs.length + 1 ≤ byteCount (cs ++ e.tail) + 1 :=
      Nat.succ_le_succ (Nat.le_trans (length_le_byte_count cs) hbytes)
    rw [reads?_expression (cs ++ e.tail)]
    exact (expression_follows_within hlength).reads cs ⟨Nat.lt_succ_self _, hcs.balance⟩
  · exact (expression_follows_within (Nat.le_refl n)).leaves

/-- An expression closes the brackets that it opens. -/
theorem openings_of_expression {cs rest : List Char} {phrase : Phrase}
    (h : expression.reads? cs = some (phrase, rest)) : openings rest = openings cs := by
  have hrest := expression_follows.leaves cs phrase rest (.of_chars cs) h
  exact (Int.add_zero _).symm.trans hrest.balance

end TextTemplate.Grammar
