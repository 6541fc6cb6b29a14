import Mathlib
import TextTemplate.Proofs.Expr.Forms
import TextTemplate.Proofs.Expr.Joined
import TextTemplate.Proofs.Expr.Parsed

/-!
# Bare expressions

Behind an `@` a variable or a call may stand bare, with what follows it without blanks. The rules
for that differ from those of an expression, which may begin with a range or a literal as well and
allows blanks before what follows an operand. Still both make the same tree of the same characters
(`Template.parse_bare`).
-/

namespace TextTemplate

open TextTemplate.Grammar TextTemplate.Grammar.Parser

namespace Grammar

variable {cs rest : List Char} {phrase : Phrase}

/-! ## Heads and what follows them -/

/-- What follows an operand begins at once, with a bracket or a single point. -/
theorem begins_of_suffix {inner : Parser Phrase} {read : Suffix}
    (h : (suffix inner).reads? cs = some (read, rest)) : Stops isBlank cs ∧ NoDots cs := by
  cases cs with
  | nil => exact ⟨.nil _, rfl⟩
  | cons c cs =>
      have hbegins : beginsSuffix c = true := by
        rw [← Bool.not_eq_false]
        intro hc
        rw [reads?_suffix_eq_none (.cons hc cs)] at h
        cases h
      rw [beginsSuffix, Bool.or_eq_true, beq_iff_eq, beq_iff_eq] at hbegins
      obtain rfl | rfl := hbegins
      · -- The name behind the point does not begin with a second one.
        have hindex : (index inner).reads? ('.' :: cs) = none := by
          simp [index]
        simp only [suffix, reads?_or_else, hindex, Option.or_none, property, propertyName,
          reads?_rule, reads?_bind, reads?_char_cons, if_true, Option.bind_some] at h
        obtain ⟨⟨key, after⟩, hkey, -⟩ := Option.bind_eq_some_iff.mp h
        obtain ⟨rfl, hname, -⟩ := exists_name_of_ident hkey
        have hpoint : (char '.').reads? (key ++ after) = none :=
          reads?_char_eq_none (.of_name_char hname rfl after)
        refine ⟨.cons rfl _, ?_⟩
        rw [NoDots, List.dropWhile_cons_of_neg (by decide)]
        simp [hpoint]
      · exact ⟨.cons rfl _, no_dots_of_stops rfl (.cons rfl cs)⟩

/-- Where nothing that is read begins with a blank, blanks may be skipped before each of it. -/
theorem Parser.ReadsMany.spaced {α : Type} {p : Parser α} {values : List α} {last : List Char}
    (h : ReadsMany p cs values last) (hlast : Stops isBlank last)
    (hp : ∀ cs value rest, p.reads? cs = some (value, rest) → Stops isBlank cs) :
    ReadsMany (andThen blanks fun _ => p) cs values last := by
  induction h with
  | stop h => exact .blanks_stop hlast.drop_while h
  | step h hless _ ih => exact .blanks_step (hp _ _ _ h).drop_while h hless (ih hlast)

/-- What is read as a bare expression, with nothing left behind it, is read as an operand, unless it
begins with a word for a truth value. -/
theorem reads?_operand_of_bare {inner : Parser Phrase} {head : Phrase} {suffixes : List Suffix}
    (hhead : (orElse (functionCall inner) atom).reads? cs = some (head, rest))
    (hsuffixes : ReadsMany (suffix inner) rest suffixes [])
    (hword : isTruthWord (cs.takeWhile continuesName) = false) :
    (operand inner).reads? cs = some (suffixes.foldl Suffix.attach head, []) ∧
      Stops isBlank cs := by
  -- Both a call and a variable begin with a name.
  obtain ⟨name, after, rfl, hname, hafter⟩ : ∃ name after, cs = name ++ after ∧ isName name ∧
      Stops continuesName after := by
    cases hident : ident.reads? cs with
    | none => simp [functionCall, functionName, atom, hident] at hhead
    | some result => exact ⟨result.1, result.2, exists_name_of_ident hident⟩
  rw [hafter.take_while_append fun _ => continues_name_of_is_name hname _] at hword
  have hbegins : Stops isBlank rest ∧ NoDots rest := by
    cases hsuffixes with
    | stop => exact ⟨.nil _, rfl⟩
    | step hsuffix => exact begins_of_suffix hsuffix
  have hbound : (bound (functionCall inner) (grouped inner)).reads? (name ++ after) =
      some (head, rest) := by
    rw [reads?_bound_name hname]
    simpa using hhead
  have hprimary : (primary inner).reads? (name ++ after) = some (head, rest) := by
    rw [reads?_primary_name hname (reads?_range_of_bound hbound hbegins.2), reads?_one_of_cons,
      reads?_literal_name hname hword hafter, Option.none_or]
    simpa using hhead
  have hspaced : (manySpaced (suffix inner)).reads? rest = some (suffixes, []) :=
    reads?_many_spaced
      (hsuffixes.spaced (.nil _) fun _ _ _ hsuffix => (begins_of_suffix hsuffix).1)
      hbegins.1.drop_while
  refine ⟨?_, .of_name hname (fun c hc => is_blank_eq_false rfl hc) after⟩
  simp [operand, hprimary, hbegins.1.drop_while, hspaced]

/-! ## Segments of a template -/

/-- A bare expression that nothing is left behind is a whole phrase with the same tree. -/
theorem exists_whole_of_bare
    (h : bareExpression.reads? ('@' :: cs) = some (.expression phrase, []))
    (hword : isTruthWord (cs.takeWhile continuesName) = false) :
    ∃ whole, IsWhole cs whole ∧ whole.toExpr = phrase.toExpr := by
  let inner := expressionWithin (byteCount cs)
  have hinner : ∀ m < cs.length + 1, ∀ depth, Follows (.ofChars cs) (Fits (.ofChars cs) m depth)
      (Fits (.ofChars cs) m depth) (Phrase.moved 0) expression inner :=
    fun m hm depth => expression_follows_within
      (Nat.le_trans (Nat.le_of_lt_succ hm) (length_le_byte_count cs))
  simp only [bareExpression, reads?_rule, reads?_bind, reads?_char_cons, if_true,
    Option.bind_some] at h
  obtain ⟨⟨head, rest⟩, hhead, h⟩ := Option.bind_eq_some_iff.mp h
  obtain ⟨⟨suffixes, last⟩, hsuffixes, h⟩ := Option.bind_eq_some_iff.mp h
  cases h
  -- The head and what follows it are the same one level further down.
  have hheads : Follows (.ofChars cs) (Fits (.ofChars cs) (cs.length + 1) 0)
      (Fits (.ofChars cs) (cs.length + 1) 0) (Phrase.moved 0)
      (orElse (functionCall expression) atom) (orElse (functionCall inner) atom) :=
    (function_call_follows hinner).or_else atom_follows
  have hinnerHead : (orElse (functionCall inner) atom).reads? cs = some (head.moved 0, rest) := by
    rw [hheads.reads_of_chars, hhead]
    rfl
  have hrest := hheads.leaves cs head rest (.of_chars cs) hhead
  obtain ⟨values, last, hmany, hfollows, -⟩ := Follows.exists_reads_many
    (fun m hm => suffix_follows fun l hl => hinner l (Nat.lt_of_lt_of_le hl hm)) hrest
  rw [reads?_many hmany] at hsuffixes
  obtain ⟨rfl, rfl⟩ := Prod.mk.inj (Option.some.inj hsuffixes)
  have hinnerSuffixes : ReadsMany (suffix inner) rest (values.map (Suffix.moved 0)) [] := by
    rw [Ending.ofChars, List.append_nil] at hfollows
    exact hfollows
  obtain ⟨hoperand, hblank⟩ := reads?_operand_of_bare hinnerHead hinnerSuffixes hword
  rw [attach_all_moved] at hoperand
  have hwhole : expression.reads? cs =
      some (.chain ((values.foldl Suffix.attach head).moved 0) [], []) := by
    rw [reads?_expression]
    exact reads?_expression_over hoperand rfl (.nil _)
  refine ⟨_, ⟨[], ?_, rfl⟩, (to_expr_chain_nil _).trans (to_expr_moved_zero _)⟩
  rw [hblank.drop_while]
  exact hwhole

/-- Behind an `@`, a block or a bare expression is a whole phrase. -/
theorem exists_whole_of_segment
    (h : segment.reads? ('@' :: cs) = some (.expression phrase, []))
    (hword : isTruthWord (cs.takeWhile continuesName) = false) :
    ∃ whole, IsWhole cs whole ∧ whole.toExpr = phrase.toExpr := by
  simp only [segment, reads?_one_of_cons, reads?_one_of_nil, Option.or_none] at h
  obtain h | ⟨-, h⟩ := Option.or_eq_some_iff.mp h
  · simp only [escapedAt, reads?_rule, reads?_bind, reads?_pure] at h
    obtain ⟨_, -, h⟩ := Option.bind_eq_some_iff.mp h
    cases h
  obtain h | ⟨-, h⟩ := Option.or_eq_some_iff.mp h
  · simp only [expressionBlock, reads?_rule, reads?_bind, reads?_chars_cons, reads?_chars_nil,
      reads?_char_cons, if_true, Option.bind_some, reads?_blanks, reads?_pure] at h
    obtain ⟨⟨_, behind⟩, hopening, h⟩ := Option.bind_eq_some_iff.mp h
    obtain ⟨⟨_, behind⟩, hparen, heq⟩ := Option.bind_eq_some_iff.mp hopening
    cases heq
    obtain ⟨⟨found, tail⟩, hreads, h⟩ := Option.bind_eq_some_iff.mp h
    obtain ⟨⟨_, last⟩, hclosing, heq⟩ := Option.bind_eq_some_iff.mp h
    cases heq
    obtain rfl := eq_cons_of_char hparen
    exact exists_whole_of_group hreads (eq_cons_of_char hclosing)
  obtain h | ⟨-, h⟩ := Option.or_eq_some_iff.mp h
  · exact exists_whole_of_bare h hword
  · simp only [plainText, reads?_rule, reads?_bind, reads?_pure] at h
    obtain ⟨_, -, h⟩ := Option.bind_eq_some_iff.mp h
    cases h

/-! ## Templates of one segment -/

/-- The trees of segments are a single tree if there is a single segment. -/
theorem exists_segment_of_all_to_expr {segments : List Segment} {expr : Expr}
    (h : Segment.allToExpr segments = .ok [expr]) :
    ∃ segment, segments = [segment] ∧ segment.toExpr = .ok expr := by
  cases segments with
  | nil => cases h
  | cons segment more =>
      obtain ⟨first, hfirst, h⟩ := ok_of_bind h
      obtain ⟨exprs, hexprs, h⟩ := ok_of_bind h
      obtain ⟨rfl, rfl⟩ := List.cons.inj (Except.ok.inj h)
      cases more with
      | nil => exact ⟨segment, rfl, hfirst⟩
      | cons second more =>
          obtain ⟨_, -, h⟩ := ok_of_bind hexprs
          obtain ⟨_, -, h⟩ := ok_of_bind h
          cases h

/-- A template of one expression takes one segment. -/
theorem exists_segment_of_parse {source : String} {expr : Expr}
    (h : Template.parse source = .ok [expr]) (hexpr : ¬ expr.isText) :
    ∃ phrase, segment.reads? source.toList = some (.expression phrase, []) ∧
      phrase.toExpr = .ok expr := by
  rw [parse_eq_read_template] at h
  obtain ⟨segments, last, attempts, hmany, hrepeats⟩ :=
    exists_repeats segment_consumes (.ofChars source.toList)
  by_cases hlast : last.rest = []
  · rw [read_template_of_ok (segmentation_of_nil hmany hlast)] at h
    cases hexprs : Segment.allToExpr segments with
    | error bad =>
        rw [hexprs] at h
        cases h
    | ok exprs =>
        rw [hexprs] at h
        rw [Template.eq_of_join_eq (Except.ok.inj h) hexpr] at hexprs
        obtain ⟨read, rfl, hread⟩ := exists_segment_of_all_to_expr hexprs
        cases read with
        | text chars =>
            obtain rfl := Except.ok.inj hread
            exact absurd rfl hexpr
        | expression phrase =>
            cases hrepeats with
            | step hreply hmore =>
                cases hmore
                exact ⟨phrase, hlast ▸ reads?_of_reply hreply, hread⟩
  · obtain ⟨furthest, -, -, herror⟩ := segmentation_of_cons hmany hrepeats hlast
    rw [read_template_of_error herror] at h
    cases h

end Grammar

/-- What stands bare behind an `@` as the only segment of a template, and does not begin with a word
for a truth value, is the same expression on its own, and in a block. -/
theorem Template.parse_bare {source : String} {expr : Expr}
    (h : Template.parse ("@" ++ source) = .ok [expr]) (hexpr : ¬ expr.isText)
    (hword : isTruthWord (source.toList.takeWhile continuesName) = false) :
    Expr.parse source = .ok expr ∧ Template.parse ("@(" ++ source ++ ")") = .ok [expr] := by
  obtain ⟨phrase, hreads, hphrase⟩ := exists_segment_of_parse h hexpr
  rw [String.toList_append] at hreads
  obtain ⟨whole, hwhole, htree⟩ := exists_whole_of_segment hreads hword
  have hread : whole.read source = .ok expr := by rw [Phrase.read, htree, hphrase]
  rw [parse_of_is_whole hwhole, (parse_enclosed_of_is_whole hwhole).2, hread]
  exact ⟨rfl, rfl⟩

/-- A call with a range and a lambda among its arguments, and an index and a property behind it. -/
theorem Template.parse_bare_call :
    Template.parse "@pick(a .. b, &[ x ])[1 + i].name" =
        .ok [.property (.access (.function "pick" [.range (.atom "a") (.atom "b") none,
          .lambda [.list [.atom "x"]]]) (.binary .add (.literal (.int 1)) (.atom "i"))) "name"] ∧
      Expr.parse "pick(a .. b, &[ x ])[1 + i].name" =
        .ok (.property (.access (.function "pick" [.range (.atom "a") (.atom "b") none,
          .lambda [.list [.atom "x"]]]) (.binary .add (.literal (.int 1)) (.atom "i"))) "name") := by
  have hparse : Template.parse ("@" ++ "pick(a .. b, &[ x ])[1 + i].name") =
      .ok [.property (.access (.function "pick" [.range (.atom "a") (.atom "b") none,
        .lambda [.list [.atom "x"]]]) (.binary .add (.literal (.int 1)) (.atom "i"))) "name"] := by
    cbv
  exact ⟨hparse, (Template.parse_bare hparse (by decide) (by decide)).1⟩

end TextTemplate
