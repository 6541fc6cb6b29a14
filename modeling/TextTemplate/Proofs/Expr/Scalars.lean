import TextTemplate.Context.Normalize
import TextTemplate.Engine.Basic
import TextTemplate.Proofs.Expr.Forms
import TextTemplate.Proofs.Expr.Literal

/-!
# Literals as expressions

A literal that takes a whole source is the same literal as an expression, so that a host string that
is read as a literal means what its text means in a template (`Engine.evaluates_literal_text`). An
operand may begin in many more ways than a literal, and a range is tried first; but the text of a
literal has none of the brackets, quotes and ampersands that the other operands begin with, and
never the two points of a range (`scalar_pointed`).
-/

namespace TextTemplate

open TextTemplate.Grammar TextTemplate.Grammar.Parser

namespace Grammar

variable {α β : Type} {cs : List Char} {phrase : Phrase}

/-! ## The text of a literal -/

/-- Whether the character can stand in a literal that is no string. -/
def isScalarChar (c : Char) : Bool :=
  isLetter c || c.isDigit || ['-', '+', ':', '.'].contains c

/-- The text is made of characters of literals, at most so many of which are points. -/
structure IsScalarText (points : Nat) (text : List Char) : Prop where
  chars : ∀ c ∈ text, isScalarChar c
  points : text.count '.' ≤ points

/-- Texts of literals one behind the other have the points of both. -/
theorem IsScalarText.append {points more : Nat} {first second : List Char}
    (h : IsScalarText points first) (hsecond : IsScalarText more second) :
    IsScalarText (points + more) (first ++ second) where
  chars := List.forall_mem_append.mpr ⟨h.chars, hsecond.chars⟩
  points := by
    rw [List.count_append]
    exact Nat.add_le_add h.points hsecond.points

/-- What the parser reads is the text of a literal, with at most so many points. -/
def Parser.WritesScalar (points : Nat) (p : Parser α) : Prop :=
  p.Spells fun text _ => IsScalarText points text

namespace Parser.WritesScalar

variable {points : Nat} {p q : Parser α}

theorem pure (value : α) : WritesScalar points (Pure.pure value : Parser α) :=
  Spells.pure ⟨List.forall_mem_nil _, Nat.zero_le _⟩

/-- Where the first of two parsers reads no point, the second may. -/
theorem plain_then {next : α → Parser β} (h : WritesScalar 0 p)
    (hnext : ∀ value, WritesScalar points (next value)) : WritesScalar points (p >>= next) :=
  Spells.bind h fun first value hfirst => (hnext value).mono fun second _ hsecond => by
    have htext := hfirst.append hsecond
    rwa [Nat.zero_add] at htext

/-- Where the second of two parsers reads no point, the first may. -/
theorem then_plain {next : α → Parser β} (h : WritesScalar points p)
    (hnext : ∀ value, WritesScalar 0 (next value)) : WritesScalar points (p >>= next) :=
  Spells.bind h fun _ value hfirst => (hnext value).mono fun _ _ hsecond =>
    hfirst.append hsecond

theorem or_else (hp : WritesScalar points p) (hq : WritesScalar points q) :
    WritesScalar points (orElse p q) :=
  Spells.or_else hp hq

theorem optional (h : WritesScalar points p) : WritesScalar points (optional p) :=
  or_else (h.then_plain fun value => pure (some value)) (pure none)

theorem rule (h : WritesScalar points p) (goal : Goal) : WritesScalar points (rule goal p) := by
  intro cs value rest hread
  rw [reads?_rule] at hread
  exact h cs value rest hread

/-- A lexeme is read where its parser reads. -/
theorem lexeme (h : WritesScalar points p) : WritesScalar points (lexeme p) := by
  intro cs value rest hread
  rw [Follows.reads?_lexeme_eq] at hread
  obtain ⟨⟨found, after⟩, hfound, heq⟩ := Option.map_eq_some_iff.mp hread
  obtain ⟨-, rfl⟩ := Prod.mk.inj heq
  exact h cs found after hfound

/-- A parser whose characters may stand in literals, and are no points, reads the text of one. -/
theorem of_reads_only (h : p.ReadsOnly fun c => isScalarChar c ∧ c ≠ '.') :
    WritesScalar points p := by
  refine Spells.mono h fun text value htext => ⟨fun c hc => (htext c hc).1, ?_⟩
  rw [List.count_eq_zero.mpr fun hpoint => (htext '.' hpoint).2 rfl]
  exact Nat.zero_le _

theorem char {c : Char} (h : isScalarChar c ∧ c ≠ '.') : WritesScalar points (char c) :=
  of_reads_only (.char h)

/-- A point is one point. -/
theorem point : WritesScalar 1 (Parser.char '.') := by
  refine Spells.mono (Spells.satisfy (· == '.')) fun text c htext => ?_
  obtain ⟨rfl, hc⟩ := htext
  rw [eq_of_beq hc]
  exact ⟨List.forall_mem_singleton.mpr rfl, Nat.le_refl 1⟩

end Parser.WritesScalar

/-- Digits stand in literals. -/
theorem is_scalar_char_of_digit (c : Char) (h : c.isDigit) : isScalarChar c ∧ c ≠ '.' := by
  refine ⟨by simp [isScalarChar, h], ?_⟩
  rintro rfl
  cases h

theorem digits_plain : digits.WritesScalar 0 :=
  .of_reads_only ((ReadsOnly.take_while1 is_scalar_char_of_digit).bind fun _ => .pure ())

theorem digit_count_plain (count : Nat) : (digitCount count).WritesScalar 0 :=
  .of_reads_only (.exactly is_scalar_char_of_digit count)

theorem sign_plain : sign.WritesScalar 0 :=
  (WritesScalar.char (by decide)).optional.plain_then fun _ => .pure ()

theorem date_plain : date.WritesScalar 0 := by
  have hdash : (char '-').WritesScalar 0 := .char (by decide)
  exact (digit_count_plain 4).plain_then fun _ => hdash.plain_then fun _ =>
    (digit_count_plain 2).plain_then fun _ => hdash.plain_then fun _ => digit_count_plain 2

/-- The fraction of a second has the only point of a time. -/
theorem time_pointed : time.WritesScalar 1 := by
  have hcolon : ∀ {points : Nat}, (char ':').WritesScalar points := .char (by decide)
  have hfraction : secondFraction.WritesScalar 1 := WritesScalar.point.then_plain fun _ =>
    digits_plain
  have hsecond : second.WritesScalar 1 :=
    hcolon.plain_then fun _ => (digit_count_plain 2).plain_then fun _ =>
      hfraction.optional.then_plain fun _ => .pure ()
  exact (digit_count_plain 2).plain_then fun _ => hcolon.plain_then fun _ =>
    (digit_count_plain 2).plain_then fun _ => hsecond.optional.then_plain fun _ => .pure ()

theorem offset_plain : offset.WritesScalar 0 := by
  have heither : ∀ {first other : Char}, isScalarChar first ∧ first ≠ '.' →
      isScalarChar other ∧ other ≠ '.' → Parser.WritesScalar 0
        (satisfy fun c => c == first || c == other) := by
    intro first other hfirst hother
    refine .of_reads_only (.satisfy fun c hc => ?_)
    rw [Bool.or_eq_true, beq_iff_eq, beq_iff_eq] at hc
    rcases hc with rfl | rfl
    · exact hfirst
    · exact hother
  have hnumeric : numericOffset.WritesScalar 0 :=
    (heither (by decide) (by decide)).plain_then fun _ => (digit_count_plain 2).plain_then
      fun _ => (WritesScalar.char (by decide)).optional.plain_then fun _ => digit_count_plain 2
  exact ((heither (by decide) (by decide)).plain_then fun _ => .pure ()).or_else hnumeric

/-- The letters of a word, in any case, stand in literals. -/
theorem word_plain {letters : List Char} (h : ∀ letter ∈ letters, isLetter letter) :
    (word letters).WritesScalar 0 := by
  induction letters with
  | nil => exact .pure ()
  | cons letter letters ih =>
      obtain ⟨hletter, hletters⟩ := List.forall_mem_cons.mp h
      have hchar : ∀ c : Char, (c.toLower == letter) = true → isScalarChar c ∧ c ≠ '.' := by
        intro c hc
        have hsmall : isLetter c := is_letter_of_to_lower (eq_of_beq hc ▸ hletter)
        refine ⟨by simp [isScalarChar, hsmall], ?_⟩
        rintro rfl
        cases hsmall
      exact (WritesScalar.of_reads_only (.satisfy hchar)).plain_then fun _ => ih hletters

theorem boolean_plain : boolean.WritesScalar 0 := by
  have hword : ∀ {letters : List Char} (value : Bool), (∀ letter ∈ letters, isLetter letter) →
      Parser.WritesScalar 0 (do word letters; return value : Parser Bool) :=
    fun value h => (word_plain h).plain_then fun _ => .pure value
  have htrue : ∀ letter ∈ ['t', 'r', 'u', 'e'], isLetter letter := by simp [isLetter]
  have hfalse : ∀ letter ∈ ['f', 'a', 'l', 's', 'e'], isLetter letter := by simp [isLetter]
  have habsent : (absent (satisfy continuesName)).WritesScalar 0 :=
    (Spells.absent _).mono fun text _ htext => by
      rw [htext]
      exact ⟨List.forall_mem_nil _, Nat.le_refl 0⟩
  exact (((hword true htrue).or_else (hword false hfalse)).plain_then fun _ =>
    habsent.plain_then fun _ => .pure _).rule _

/-- A literal that is no string is made of characters of literals, and has a single point at
most. -/
theorem scalar_pointed : scalar.WritesScalar 1 := by
  have htimestamp : timestamp.WritesScalar 1 :=
    ((date_plain.plain_then fun _ => (WritesScalar.char (by decide)).plain_then fun _ =>
      time_pointed.then_plain fun _ => offset_plain.optional).lexeme.then_plain fun _ =>
        .pure _).rule _
  have hdecimal : decimal.WritesScalar 1 :=
    ((sign_plain.plain_then fun _ => digits_plain.plain_then fun _ =>
      WritesScalar.point.then_plain fun _ => digits_plain).lexeme.then_plain fun _ =>
        .pure _).rule _
  have hinteger : integer.WritesScalar 0 :=
    ((sign_plain.plain_then fun _ => digits_plain).lexeme.plain_then fun _ => .pure _).rule _
  have hplain : ∀ {p : Parser Phrase}, p.WritesScalar 0 → p.WritesScalar 1 := fun h =>
    h.mono fun _ _ htext => ⟨htext.chars, Nat.le_succ_of_le htext.points⟩
  intro cs phrase rest hread
  simp only [scalar, reads?_one_of_cons, reads?_one_of_nil, Option.or_eq_some_iff] at hread
  rcases hread with h | ⟨-, h | ⟨-, h | ⟨-, h | ⟨-, h⟩⟩⟩⟩
  · exact htimestamp cs phrase rest h
  · exact hdecimal cs phrase rest h
  · exact hplain hinteger cs phrase rest h
  · exact hplain boolean_plain cs phrase rest h
  · cases h

/-! ## Literals among operands -/

/-- A single point leaves no room for the two points of a range. -/
theorem no_dots_of_count {rest : List Char} (h : rest.count '.' ≤ 1) : NoDots rest := by
  have hafter : (rest.dropWhile isBlank).count '.' ≤ 1 :=
    Nat.le_trans ((List.dropWhile_sublist isBlank).count_le '.') h
  rw [NoDots]
  cases hrest : rest.dropWhile isBlank with
  | nil => rfl
  | cons c more =>
      rw [hrest] at hafter
      by_cases hc : c = '.'
      · rw [hc, List.count_cons_self] at hafter
        have hmore : Stops (· == '.') more := by
          intro d hd
          rw [beq_eq_false_iff_ne]
          rintro rfl
          have hcount := List.count_pos_iff.mpr (List.mem_of_mem_head? hd)
          omega
        simp [hc, reads?_char_eq_none hmore]
      · simp [hc]

/-- Characters with a single point begin no range. -/
theorem reads?_range_of_count (h : cs.count '.' ≤ 1) (depth : Nat) :
    (range (expressionWithin depth) (functionCall (expressionWithin depth))
      (grouped (expressionWithin depth))).reads? cs = none := by
  have hinner := fun source => expression_within_stays (@Phrase.is_in_inherited source) depth
  have hadvances : (bound (functionCall (expressionWithin depth))
      (grouped (expressionWithin depth))).Advances := fun source =>
    (bound_stays Phrase.is_in_inherited
      (function_call_stays Phrase.is_in_inherited (hinner source))
      (grouped_stays (hinner source))).mono fun _ _ => trivial
  cases hbound : (bound (functionCall (expressionWithin depth))
      (grouped (expressionWithin depth))).reads? cs with
  | none => simp only [range, reads?_rule, reads?_bind, hbound, Option.bind_none]
  | some result =>
      have hcount : result.2.count '.' ≤ 1 :=
        Nat.le_trans ((hadvances.suffix hbound).sublist.count_le '.') h
      exact reads?_range_of_bound hbound (no_dots_of_count hcount)

/-- A literal that takes all of the characters is the whole phrase in them. -/
theorem is_whole_of_scalar (h : scalar.reads? cs = some (phrase, [])) :
    IsWhole cs (.chain phrase []) := by
  obtain ⟨text, htext, hchars, hpoints⟩ := scalar_pointed cs phrase [] h
  rw [List.append_nil] at htext
  subst htext
  have hstops : ∀ {p : Char → Bool}, (∀ c, isScalarChar c → p c = false) → Stops p cs :=
    fun hp c hc => hp c (hchars c (List.mem_of_mem_head? hc))
  have hchar : ∀ {d : Char}, isScalarChar d = false → Stops (· == d) cs := by
    refine fun {d} hd => hstops fun c hc => ?_
    rw [beq_eq_false_iff_ne]
    rintro rfl
    exact absurd hc (Bool.eq_false_iff.mp hd)
  have hprimary : (primary (expressionWithin (byteCount cs))).reads? cs = some (phrase, []) := by
    simp [reads?_primary, reads?_range_of_count hpoints, reads?_capture_eq_none (hchar rfl),
      reads?_lambda_eq_none (hchar rfl), reads?_list_eq_none (hchar rfl),
      reads?_grouped_eq_none (hchar rfl), literal, reads?_string_eq_none (hchar rfl), h]
  have hblank : Stops isBlank cs := hstops fun c hc => is_blank_eq_false rfl hc
  refine ⟨[], ?_, rfl⟩
  rw [hblank.drop_while, reads?_expression]
  exact reads?_expression_over (reads?_operand hprimary rfl (.nil _)) rfl (.nil _)

/-! ## Whole literals -/

/-- The grammar admits a source as a literal if a scalar takes all of it. -/
theorem reads?_whole_literal_iff :
    (∃ rest, wholeLiteral.reads? cs = some (phrase, rest)) ↔
      scalar.reads? cs = some (phrase, []) := by
  simp only [wholeLiteral, theEnd, reads?_rule, reads?_bind, reads?_end_of_input]
  constructor
  · rintro ⟨rest, h⟩
    obtain ⟨⟨found, after⟩, hreads, h⟩ := Option.bind_eq_some_iff.mp h
    cases after with
    | nil =>
        cases h
        exact hreads
    | cons c after => cases h
  · intro h
    exact ⟨[], by rw [h]; rfl⟩

/-- A source that is a scalar is parsed to the value of the scalar. -/
theorem parse_literal_of_scalar {source : String}
    (h : scalar.reads? source.toList = some (phrase, [])) :
    Literal.parse source = (do
      let expr ← phrase.read source
      expr.literalValue source) := by
  obtain ⟨rest, hreads⟩ := reads?_whole_literal_iff.mpr h
  have hrun := run_eq_ok hreads
  rw [String.ofList_toList] at hrun
  rw [Literal.parse_eq, hrun]
  rfl

/-- A source that is parsed to a literal is a scalar with that value. -/
theorem exists_scalar_of_parse {source : String} {literal : Literal}
    (h : Literal.parse source = .ok literal) :
    ∃ phrase, scalar.reads? source.toList = some (phrase, []) ∧
      phrase.read source = .ok (.literal literal) := by
  rw [Literal.parse_eq] at h
  obtain ⟨phrase, hrun, h⟩ := ok_of_bind h
  obtain ⟨expr, hread, hvalue⟩ := ok_of_bind h
  refine ⟨phrase, reads?_whole_literal_iff.mp ?_, ?_⟩
  · rw [Parser.run] at hrun
    split at hrun
    · next found after attempts heq =>
        obtain rfl := Except.ok.inj hrun
        have hreads := reads?_of_reply heq
        rw [rest_of_chars] at hreads
        exact ⟨after.rest, hreads⟩
    · cases hrun
  · cases expr with
    | literal value =>
        obtain rfl := Except.ok.inj hvalue
        exact hread
    | _ => cases hvalue

end Grammar

/-- A literal that takes the whole source is the same literal as an expression. -/
theorem Expr.parse_of_literal {source : String} {literal : Literal}
    (h : Literal.parse source = .ok literal) : Expr.parse source = .ok (.literal literal) := by
  obtain ⟨phrase, hscalar, hread⟩ := exists_scalar_of_parse h
  rw [parse_of_is_whole (is_whole_of_scalar hscalar), Phrase.read, to_expr_chain_nil, ← Phrase.read,
    hread]

/-- A host string whose value is no string is read as a literal with that value. -/
theorem Value.exists_literal_of_host_text {options : ContextOptions} {text : String}
    (h : ∀ kept, ofHostText options text ≠ str kept) :
    ∃ literal, Literal.parse text = .ok literal ∧ ofHostText options text = literal.value := by
  rw [ofHostText] at h ⊢
  split at h
  · exact absurd rfl (h text)
  · next hread =>
      rw [if_neg hread]
      cases hparse : Literal.parse text with
      | ok literal => exact ⟨literal, rfl, rfl⟩
      | error error =>
          rw [hparse] at h
          exact absurd rfl (h text)

namespace Engine

/-- Where a single level of nesting is allowed, a literal is evaluated to its value. -/
theorem eval_expr_literal (engine : Engine) (origin : Origin) (literal : Literal)
    {context : Context} (hresolver : context.resolverName = none)
    (hdepth : 1 ≤ engine.options.maxDepth) :
    engine.evalExpr origin (.literal literal) context = .ok literal.value := by
  have hselect : engine.resolvers.select context = .ok engine.resolvers.default := by
    rw [Resolvers.select, hresolver]
  have hroom : ¬ engine.options.maxDepth ≤ 0 := by omega
  rw [evalExpr, Resolvers.eval, hselect]
  change ((Scope.eval _ _ _ _ _).mapError _ : Except EngineError Value) = _
  rw [Scope.eval, Scope.evalAt, if_neg hroom]
  rfl

/-- A source that is a literal as a whole is the same literal as an expression. A host string that
is read as anything but a string means the same as an expression, in any context that asks for no
resolver. -/
theorem evaluates_literal_text :
    (∀ source literal, Literal.parse source = .ok literal →
      Expr.parse source = .ok (.literal literal)) ∧
    ∀ (options : ContextOptions) (text : String),
      (∀ kept, Value.ofHostText options text ≠ .str kept) →
      ∀ (engine : Engine) (origin : Origin) (context : Context), context.resolverName = none →
        1 ≤ engine.options.maxDepth →
        engine.evaluateExpression origin text context = .ok (Value.ofHostText options text) := by
  refine ⟨fun source literal => Expr.parse_of_literal, ?_⟩
  intro options text hvalue engine origin context hresolver hdepth
  obtain ⟨literal, hparse, hliteral⟩ := Value.exists_literal_of_host_text hvalue
  rw [evaluateExpression, Expr.parse_of_literal hparse, hliteral]
  exact engine.eval_expr_literal origin literal hresolver hdepth

/-- A timestamp is one literal, in spite of its signs and its point, and means the same instant as
host data and as an expression. -/
theorem evaluates_timestamp_text :
    let text := "2024-02-29T12:30:00.250+05:30"
    let instant : Time.Timestamp := ⟨1709190000, 250000000, 19800⟩
    let engine : Engine := ⟨fun _ => .standard, ⟨.standard, []⟩, {}⟩
    Expr.parse text = .ok (.literal (.dateTime instant)) ∧
      Value.ofHostText {} text = .dateTime instant ∧
      engine.evaluateExpression [0] text .empty = .ok (.dateTime instant) := by
  intro text instant engine
  have hwritten : instant.IsWritten :=
    ⟨by decide, by decide, by decide, by decide, by decide⟩
  have htext : instant.text = text := by decide
  have hparse : Literal.parse text = .ok (.dateTime instant) :=
    htext ▸ parse_timestamp_text hwritten
  have hvalue : Value.ofHostText {} text = .dateTime instant := by
    rw [Value.ofHostText, if_neg (by decide), hparse]
    rfl
  have hkept : ∀ kept, Value.ofHostText {} text ≠ .str kept := by
    intro kept
    rw [hvalue]
    exact nofun
  have hresolver : Context.empty.resolverName = none := rfl
  refine ⟨evaluates_literal_text.1 text _ hparse, hvalue, ?_⟩
  rw [← hvalue]
  exact evaluates_literal_text.2 {} text hkept engine _ .empty hresolver (by decide)

end Engine

end TextTemplate
