import Mathlib
import TextTemplate.Proofs.Expr.Blocks
import TextTemplate.Proofs.Expr.Escaping
import TextTemplate.Proofs.Grammar.Enclosed
import TextTemplate.Proofs.Grammar.Refusals

/-!
# The forms of an expression

An expression can stand as a source of its own, in parentheses, and in a block of a template. All
forms have the same tree, and an expression with a literal that denotes no value is refused for the
same literal in each of them (`Expr.parse_enclosed`).
-/

namespace TextTemplate

open TextTemplate.Grammar TextTemplate.Grammar.Parser

/-- The error, in a source with more text in front of it and behind it. -/
def ParseError.within (front back : String) (error : ParseError) : ParseError where
  kind := error.kind
  source := front ++ error.source ++ back
  span := ⟨error.span.start + byteCount front.toList, error.span.stop + byteCount front.toList⟩

namespace Grammar

/-! ## Whole sources -/

/-- The phrase is what the grammar recognises in all of the characters, up to blanks around it. -/
def IsWhole (cs : List Char) (phrase : Phrase) : Prop :=
  ∃ tail, expression.reads? (cs.dropWhile isBlank) = some (phrase, tail) ∧
    tail.dropWhile isBlank = []

variable {cs tail : List Char} {phrase : Phrase}

/-- The grammar admits the characters as an expression if they are a whole phrase. -/
theorem reads?_whole_expression_iff :
    (∃ rest, wholeExpression.reads? cs = some (phrase, rest)) ↔ IsWhole cs phrase := by
  simp only [wholeExpression, theEnd, reads?_rule, reads?_bind, reads?_blanks, Option.bind_some,
    reads?_end_of_input]
  constructor
  · rintro ⟨rest, h⟩
    obtain ⟨⟨found, tail⟩, hreads, h⟩ := Option.bind_eq_some_iff.mp h
    cases hblank : tail.dropWhile isBlank with
    | nil =>
        rw [hblank] at h
        cases h
        exact ⟨tail, hreads, hblank⟩
    | cons c more =>
        rw [hblank] at h
        cases h
  · rintro ⟨tail, hreads, hblank⟩
    refine ⟨[], ?_⟩
    rw [hreads, Option.bind_some, hblank]
    rfl

/-- A source that is a whole phrase is parsed to the tree of the phrase. -/
theorem parse_of_is_whole {source : String} (h : IsWhole source.toList phrase) :
    Expr.parse source = phrase.read source := by
  obtain ⟨rest, hreads⟩ := reads?_whole_expression_iff.mpr h
  have hrun : wholeExpression.run source = .ok phrase := by
    have hrun := run_eq_ok hreads
    rwa [String.ofList_toList] at hrun
  rw [Expr.parse_eq, hrun]
  rfl

/-- A source is a whole phrase unless the grammar expects something else in it. -/
theorem is_whole_or_unexpected (source : String) :
    (∃ phrase, IsWhole source.toList phrase) ∨
      ∃ attempts, Expr.parse source = .error (Attempts.toError source attempts) := by
  cases hreply : wholeExpression (.ofChars source.toList) with
  | mk outcome attempts =>
      cases outcome with
      | some result =>
          have hreads := reads?_of_reply hreply
          rw [rest_of_chars] at hreads
          exact .inl ⟨result.1, reads?_whole_expression_iff.mp ⟨_, hreads⟩⟩
      | none =>
          refine .inr ⟨attempts, ?_⟩
          rw [Expr.parse_eq, Parser.run, hreply]
          rfl

/-! ## Trees -/

/-- An operand alone has its own tree. -/
theorem to_expr_chain_nil (phrase : Phrase) : (Phrase.chain phrase []).toExpr = phrase.toExpr := by
  rw [Phrase.toExpr]
  cases phrase.toExpr <;> rfl

/-- Nothing changes with no more bytes behind the phrase. -/
theorem to_expr_moved_zero (phrase : Phrase) : (phrase.moved 0).toExpr = phrase.toExpr := by
  rw [Phrase.to_expr_moved]
  cases phrase.toExpr <;> rfl

/-- A phrase in the middle of a longer source is refused for the same literal, where it is there. -/
theorem read_within {source : String} (h : phrase.IsIn source.toList) (front back : String)
    {other : Phrase} (hother : other.toExpr = (phrase.moved (byteCount back.toList)).toExpr) :
    other.read (front ++ source ++ back) =
      (phrase.read source).mapError (ParseError.within front back) := by
  rw [Phrase.read, Phrase.read, hother, Phrase.to_expr_moved]
  cases hexpr : phrase.toExpr with
  | ok expr => rfl
  | error bad =>
      obtain ⟨hstart, hstop⟩ := places_of_is_written_in (h _ (Phrase.of_to_expr_eq_error hexpr).1)
      have hplace : ∀ bytesLeft, bytesLeft ≤ byteCount source.toList →
          byteCount (front ++ source ++ back).toList - (bytesLeft + byteCount back.toList) =
            byteCount source.toList - bytesLeft + byteCount front.toList := by
        intro bytesLeft hle
        rw [String.toList_append, String.toList_append, byte_count_append, byte_count_append]
        omega
      refine congrArg Except.error ?_
      simp only [BadLiteral.toError, BadLiteral.moved, Lexeme.moved, Lexeme.span,
        ParseError.within, hplace _ hstart, hplace _ hstop]

/-- The literals of a whole phrase are stretches of the source. -/
theorem IsWhole.is_in (h : IsWhole cs phrase) : phrase.IsIn cs := by
  obtain ⟨tail, hreads, -⟩ := h
  exact (expression_stays Phrase.is_in_inherited).of_reads? (List.dropWhile_suffix isBlank) hreads

/-! ## Parentheses -/

/-- A whole phrase opens as many brackets as it closes. -/
theorem IsWhole.openings (h : IsWhole cs phrase) : openings (cs.dropWhile isBlank) = 0 := by
  obtain ⟨tail, hreads, hblank⟩ := h
  have hplain : ∀ c, isBlank c → isPlain c := fun c hc => is_plain_of rfl hc
  rw [← openings_of_expression hreads, ← openings_drop_while hplain, hblank]
  rfl

/-- A whole phrase is read in front of a parenthesis as well. -/
theorem IsWhole.reads?_before_paren (h : IsWhole cs phrase) :
    ∃ tail, expression.reads? ((cs ++ [')']).dropWhile isBlank) = some (phrase.moved 1, tail) ∧
      tail.dropWhile isBlank = [')'] := by
  let e : Ending := ⟨[')'], 0, .inr ⟨rfl, Int.le_refl 0⟩⟩
  have hbalance : TextTemplate.Grammar.openings (cs.dropWhile isBlank) = 0 := h.openings
  obtain ⟨tail, hreads, hblank⟩ := h
  have hfits : Fits e ((cs.dropWhile isBlank).length + 1) 0 (cs.dropWhile isBlank) :=
    ⟨Nat.lt_succ_self _, by rw [hbalance]; rfl⟩
  have hparen : Stops isBlank [')'] := .cons rfl []
  refine ⟨tail ++ [')'], ?_, by rw [hparen.drop_while_of_append, hblank, List.nil_append]⟩
  rw [hparen.drop_while_of_append]
  have hfollows := expression_follows.reads _ hfits
  rwa [hreads] at hfollows

/-- An expression in parentheses is a whole phrase with the same tree. -/
theorem exists_whole_of_group
    (hreads : expression.reads? (cs.dropWhile isBlank) = some (phrase, tail))
    (htail : tail.dropWhile isBlank = [')']) :
    ∃ group, IsWhole ('(' :: cs) group ∧ group.toExpr = phrase.toExpr := by
  let inner := expressionWithin (byteCount ('(' :: cs))
  -- The brackets around it leave levels of nesting enough.
  have hlevels : (cs.dropWhile isBlank).length + 1 ≤ byteCount ('(' :: cs) := by
    have hshort : (cs.dropWhile isBlank).length ≤ cs.length := (List.dropWhile_suffix _).length_le
    have hbytes := length_le_byte_count ('(' :: cs)
    rw [List.length_cons] at hbytes
    omega
  have hinner : inner.reads? (cs.dropWhile isBlank) = some (phrase.moved 0, tail) := by
    rw [(expression_follows_within hlevels).reads_of_chars, hreads]
    rfl
  have hgroup : (grouped inner).reads? ('(' :: cs) = some (phrase.moved 0, []) := by
    simp [grouped, hinner, htail]
  have hdots : NoDots [] := rfl
  have hprimary : (primary inner).reads? ('(' :: cs) = some (phrase.moved 0, []) :=
    reads?_primary_group hgroup hdots
  have hoperand : (operand inner).reads? ('(' :: cs) = some (phrase.moved 0, []) :=
    reads?_operand hprimary rfl (.nil _)
  have hwhole : expression.reads? ('(' :: cs) = some (.chain (phrase.moved 0) [], []) := by
    rw [reads?_expression]
    exact reads?_expression_over hoperand rfl (.nil _)
  exact ⟨_, ⟨[], hwhole, rfl⟩, (to_expr_chain_nil _).trans (to_expr_moved_zero phrase)⟩

/-- The characters between an opening and a closing parenthesis. -/
theorem to_list_enclosed (front source : String) :
    (front ++ source ++ ")").toList = front.toList ++ (source.toList ++ [')']) := by
  rw [String.toList_append, String.toList_append, List.append_assoc]
  rfl

/-- A template of one expression is parsed to its tree. -/
theorem parse_of_single_expression {source : String} {rest : List Char}
    (h : wholeTemplate.reads? source.toList = some ([.expression phrase], rest)) :
    Template.parse source = (phrase.read source).map ([·]) := by
  have hrun : wholeTemplate.run source = .ok [.expression phrase] := by
    have hrun := run_eq_ok h
    rwa [String.ofList_toList] at hrun
  rw [Template.parse_eq, hrun]
  change (Segment.readAll source [.expression phrase]).bind _ = _
  rw [Segment.readAll, Segment.read]
  cases phrase.read source with
  | error error => rfl
  | ok expr =>
      have hjoin : Template.join [expr] = [expr] := by cases expr <;> rfl
      exact congrArg Except.ok hjoin

/-- In parentheses, and in a block, a whole phrase has its tree, or is refused for its literal. -/
theorem parse_enclosed_of_is_whole {source : String} (h : IsWhole source.toList phrase) :
    Expr.parse ("(" ++ source ++ ")") =
        (phrase.read source).mapError (ParseError.within "(" ")") ∧
      Template.parse ("@(" ++ source ++ ")") =
        ((phrase.read source).mapError (ParseError.within "@(" ")")).map ([·]) := by
  obtain ⟨tail, hreads, htail⟩ := h.reads?_before_paren
  constructor
  · obtain ⟨group, hgroup, hexpr⟩ := exists_whole_of_group hreads htail
    have hwhole : IsWhole ("(" ++ source ++ ")").toList group := by
      rw [to_list_enclosed]
      exact hgroup
    rw [parse_of_is_whole hwhole]
    exact read_within h.is_in "(" ")" hexpr
  · have hwhole : wholeTemplate.reads? ("@(" ++ source ++ ")").toList =
        some ([.expression (phrase.moved 1)], []) := by
      rw [to_list_enclosed]
      exact reads?_whole_template_block hreads htail
    rw [parse_of_single_expression hwhole]
    exact congrArg _ (read_within h.is_in "@(" ")" rfl)

end Grammar

/-- An expression is the same in parentheses and in a block of a template. If it is parsed, they
have its tree; if one of its literals denotes no value, they are refused for that literal, which
stands further on by what is written in front. -/
theorem Expr.parse_enclosed (source : String) :
    (∀ expr, Expr.parse source = .ok expr →
      Expr.parse ("(" ++ source ++ ")") = .ok expr ∧
      Template.parse ("@(" ++ source ++ ")") = .ok [expr]) ∧
    ∀ error kind text, Expr.parse source = .error error →
      error.kind = .invalidLiteral kind text →
      Expr.parse ("(" ++ source ++ ")") =
        .error ⟨.invalidLiteral kind text, "(" ++ source ++ ")",
          ⟨error.span.start + 1, error.span.stop + 1⟩⟩ ∧
      Template.parse ("@(" ++ source ++ ")") =
        .error ⟨.invalidLiteral kind text, "@(" ++ source ++ ")",
          ⟨error.span.start + 2, error.span.stop + 2⟩⟩ := by
  obtain ⟨phrase, hwhole⟩ | ⟨attempts, hunread⟩ := is_whole_or_unexpected source
  · obtain ⟨hgroup, hblock⟩ := parse_enclosed_of_is_whole hwhole
    rw [parse_of_is_whole hwhole, hgroup, hblock]
    refine ⟨fun expr hexpr => ?_, fun error kind text herror hkind => ?_⟩
    · rw [hexpr]
      exact ⟨rfl, rfl⟩
    · have hsource : error.source = source := by
        rw [Phrase.read] at herror
        split at herror
        · cases herror
        · exact (Except.error.inj herror) ▸ rfl
      rw [herror, ← hkind, ← hsource]
      exact ⟨rfl, rfl⟩
  · rw [hunread]
    constructor
    · intro expr hexpr
      cases hexpr
    · intro error kind text herror hkind
      obtain rfl := Except.error.inj herror
      cases hkind

/-- A sum is the same in every form, and so is an integer that is too large. -/
theorem Expr.parse_enclosed_sum :
    (Expr.parse "(1 + x[2])" = .ok (.binary .add (.literal (.int 1))
        (.access (.atom "x") (.literal (.int 2)))) ∧
      Template.parse "@(1 + x[2])" = .ok [.binary .add (.literal (.int 1))
        (.access (.atom "x") (.literal (.int 2)))]) ∧
    (Expr.parse "( 9223372036854775808)" =
        .error ⟨.invalidLiteral .integer "9223372036854775808", "( 9223372036854775808)",
          ⟨2, 21⟩⟩ ∧
      Template.parse "@( 9223372036854775808)" =
        .error ⟨.invalidLiteral .integer "9223372036854775808", "@( 9223372036854775808)",
          ⟨3, 22⟩⟩) := by
  have hsum : Expr.parse "1 + x[2]" = .ok (.binary .add (.literal (.int 1))
      (.access (.atom "x") (.literal (.int 2)))) := by cbv
  have hlarge : Expr.parse " 9223372036854775808" =
      .error ⟨.invalidLiteral .integer "9223372036854775808", " 9223372036854775808",
        ⟨1, 20⟩⟩ := by cbv
  exact ⟨(Expr.parse_enclosed "1 + x[2]").1 _ hsum,
    (Expr.parse_enclosed " 9223372036854775808").2 _ _ _ hlarge rfl⟩

end TextTemplate
