import TextTemplate.Proofs.Expr.Building
import TextTemplate.Proofs.Grammar.Nesting

/-!
# Literals of pairs

The literals of a source are among the pairs that the grammar leaves (`Pair.literalsOfAll`). Since
pairs lie one behind the other, so do the literals (`Pair.Nested.literals_in_order`). They are the
literals of the phrases that the recognizer reads in the source, in the same order
(`whole_template_writes`, `whole_expression_writes`).
-/

namespace TextTemplate.Grammar

open TextTemplate.Grammar.Parser

/-! ## Pairs -/

namespace Pair

/-- The literal that a pair stands for, if it may denote no value. The text of a capture is that of
its index, the place that of the whole. -/
def literal? : Pair → Option (LiteralKind × Lexeme)
  | .mk goal start stop inner =>
    match goal, inner with
    | .integer, _ => some (.integer, stretch start stop)
    | .decimal, _ => some (.decimal, stretch start stop)
    | .timestamp, _ => some (.timestamp, stretch start stop)
    | .capture, index :: _ =>
      some (.captureIndex, { stretch start stop with text := index.lexeme.text })
    | _, _ => none

mutual
/-- The literals of a pair that may denote no value. -/
def literals : Pair → List (LiteralKind × Lexeme)
  | .mk goal start stop inner =>
    match literal? (.mk goal start stop inner) with
    | some literal => [literal]
    | none => literalsOfAll inner

/-- The literals of pairs. -/
def literalsOfAll : List Pair → List (LiteralKind × Lexeme)
  | [] => []
  | pair :: pairs => pair.literals ++ literalsOfAll pairs
end

/-- A literal takes the stretch of its pair. -/
theorem places_of_literal? {goal : Goal} {start stop : Cursor} {inner : List Pair}
    {literal : LiteralKind × Lexeme} (h : literal? (.mk goal start stop inner) = some literal) :
    literal.2.bytesLeft = start.bytesLeft ∧ literal.2.bytesAfter = stop.bytesLeft := by
  unfold literal? at h
  dsimp only at h
  split at h <;> cases h <;> exact ⟨rfl, rfl⟩

/-- The literals of pairs that stand behind others stand behind those of the others. -/
theorem literals_of_all_append (pairs others : List Pair) :
    literalsOfAll (pairs ++ others) = literalsOfAll pairs ++ literalsOfAll others := by
  induction pairs with
  | nil => rfl
  | cons pair pairs ih =>
      rw [List.cons_append, literalsOfAll, literalsOfAll, ih, List.append_assoc]

/-- The literals of a pair that is none itself are those of the pairs within it. -/
theorem literals_of_all_singleton {goal : Goal} {start stop : Cursor} {inner : List Pair}
    (h : literal? (.mk goal start stop inner) = none) :
    literalsOfAll [.mk goal start stop inner] = literalsOfAll inner := by
  rw [literalsOfAll, literalsOfAll, List.append_nil, literals, h]

end Pair

/-- One lexeme ends before the other begins, or where it begins. -/
def Lexeme.Precedes (first second : Lexeme) : Prop :=
  second.bytesLeft ≤ first.bytesAfter

namespace Pair.Nested

variable {most least : Nat} {pairs : List Pair}

/-- The literals of pairs lie where the pairs do. -/
theorem literals_between (h : Nested most least pairs) :
    ∀ literal ∈ literalsOfAll pairs,
      literal.2.bytesLeft ≤ most ∧ least ≤ literal.2.bytesAfter := by
  induction h with
  | nil h => exact List.forall_mem_nil _
  | @cons most least goal start stop inner rest hstart hinner hrest ihInner ihRest =>
      have hstop := hinner.le
      rw [literalsOfAll, literals]
      refine List.forall_mem_append.mpr ⟨?_, fun literal hliteral => ?_⟩
      · split
        · next literal heq =>
            obtain ⟨hleft, hafter⟩ := places_of_literal? heq
            refine List.forall_mem_singleton.mpr ⟨?_, ?_⟩
            · rw [hleft]
              exact hstart
            · rw [hafter]
              exact hrest.le
        · intro literal hliteral
          obtain ⟨hleft, hafter⟩ := ihInner literal hliteral
          exact ⟨Nat.le_trans hleft hstart, Nat.le_trans hrest.le hafter⟩
      · obtain ⟨hleft, hafter⟩ := ihRest literal hliteral
        exact ⟨Nat.le_trans hleft (Nat.le_trans hstop hstart), hafter⟩

/-- The literals of pairs stand in the order of the source. -/
theorem literals_in_order (h : Nested most least pairs) :
    (literalsOfAll pairs).Pairwise fun first second => first.2.Precedes second.2 := by
  induction h with
  | nil h => exact .nil
  | @cons most least goal start stop inner rest hstart hinner hrest ihInner ihRest =>
      rw [literalsOfAll, literals]
      refine List.pairwise_append.mpr ⟨?_, ihRest, fun first hfirst second hsecond => ?_⟩
      · split
        · exact List.pairwise_singleton _ _
        · exact ihInner
      · -- Every literal of the pair ends before the pair does, and the others begin behind it.
        have hbehind : second.2.bytesLeft ≤ stop.bytesLeft :=
          (hrest.literals_between second hsecond).1
        have hends : stop.bytesLeft ≤ first.2.bytesAfter := by
          split at hfirst
          · next literal heq =>
              obtain rfl := List.mem_singleton.mp hfirst
              exact Nat.le_of_eq (places_of_literal? heq).2.symm
          · exact (hinner.literals_between first hfirst).2
        exact Nat.le_trans hbehind hends

end Pair.Nested

/-! ## Pairs and phrases -/

/-- The literals of the pairs are those of the value. -/
def Writes {α : Type} (f : α → List (LiteralKind × Lexeme)) (pairs : List Pair) (value : α) :
    Prop :=
  Pair.literalsOfAll pairs = f value

namespace Writes

variable {α β : Type} {f : α → List (LiteralKind × Lexeme)} {g : β → List (LiteralKind × Lexeme)}

theorem append {first second : List Pair} {value : α} {other : β} (hfirst : Writes f first value)
    (hsecond : Writes g second other) :
    Pair.literalsOfAll (first ++ second) = f value ++ g other := by
  rw [Pair.literals_of_all_append, hfirst, hsecond]

/-- The literals of values one behind the other. -/
theorem flatten {parts : List (List Pair)} {values : List α}
    (h : List.Forall₂ (Writes f) parts values) :
    Writes (List.flatMap f) parts.flatten values := by
  induction h with
  | nil => rfl
  | cons hfirst _ ih => exact hfirst.append ih

end Writes

namespace Parser.Mirrors

variable {α β : Type} {goal : Goal} {f : β → List (LiteralKind × Lexeme)}

/-- The pair of a rule that is no literal has the literals of the pairs within it. -/
theorem pair_writes {p : Parser (List Pair)} {q : Parser β} (h : Mirrors (Writes f) p q)
    (hgoal : ∀ start stop inner, Pair.literal? (.mk goal start stop inner) = none) :
    Mirrors (Writes f) (Parser.pair goal p) (Parser.rule goal q) :=
  h.pair fun start stop inner _ hinner _ _ =>
    (Pair.literals_of_all_singleton (hgoal start stop inner)).trans hinner

/-- A rule that leaves a single pair has no literals unless it is one. -/
theorem token_writes {p : Parser α} {q : Parser β} (h : Mirrors (fun _ other => f other = []) p q)
    (hgoal : ∀ start stop inner, Pair.literal? (.mk goal start stop inner) = none) :
    Mirrors (Writes f) (Parser.token goal p) (Parser.rule goal q) := by
  have hq : (q >>= Pure.pure) = q := bind_pure_eq q
  have hbody : Mirrors (Writes f) (p >>= fun _ => Pure.pure []) (q >>= Pure.pure) :=
    h.bind fun _ _ hnone => pure hnone.symm
  rw [hq] at hbody
  exact hbody.pair_writes hgoal

/-- A rule that leaves a single pair, for something without literals made of what it reads. -/
theorem token_writes_nothing {p : Parser α} {value : α → β} (hnone : ∀ found, f (value found) = [])
    (hgoal : ∀ start stop inner, Pair.literal? (.mk goal start stop inner) = none) :
    Mirrors (Writes f) (Parser.token goal p)
      (Parser.rule goal (p >>= fun found => Pure.pure (value found))) := by
  have hbody : Mirrors (fun _ other => f other = []) p
      (p >>= fun found => Pure.pure (value found)) :=
    (refl p).map_right fun _ found _ => hnone found
  exact hbody.token_writes hgoal

end Parser.Mirrors

/-! ## Names, literals and operators -/

/-- What holds no literals. -/
def noLiterals {α : Type} : α → List (LiteralKind × Lexeme) :=
  fun _ => []

theorem name_writes {goal : Goal}
    (hgoal : ∀ start stop inner, Pair.literal? (.mk goal start stop inner) = none) :
    Mirrors (Writes noLiterals) (token goal ident) (rule goal ident) :=
  ((Mirrors.refl ident).mono fun _ _ _ => rfl).token_writes hgoal

theorem atom_writes : Mirrors (Writes Phrase.literals) Rules.atom atom :=
  .token_writes_nothing (fun _ => rfl) fun _ _ _ => rfl

theorem integer_writes : Mirrors (Writes Phrase.literals) Rules.integer integer :=
  (Mirrors.refl _).token_lexeme fun _ _ => rfl

theorem decimal_writes : Mirrors (Writes Phrase.literals) Rules.decimal decimal :=
  (Mirrors.refl _).token_lexeme fun _ _ => rfl

theorem timestamp_writes : Mirrors (Writes Phrase.literals) Rules.timestamp timestamp :=
  (Mirrors.refl _).token_lexeme fun _ _ => rfl

theorem boolean_writes : Mirrors (Writes Phrase.literals) Rules.boolean boolean := by
  have hword : ∀ letters (value : Bool), Mirrors (fun _ _ => True) (word letters)
      (word letters >>= fun _ => pure value) := fun letters value =>
    (Mirrors.refl _).map_right fun _ _ _ => trivial
  refine Mirrors.token_writes ?_ fun _ _ _ => rfl
  exact ((hword _ true).or_else (hword _ false)).bind fun _ value _ =>
    (Mirrors.refl _).map_right fun _ _ _ => rfl

theorem string_writes : Mirrors (Writes Phrase.literals) Rules.string string := by
  have hcontent : Mirrors (Writes noLiterals) Rules.stringContent stringContent :=
    .token_writes_nothing (fun _ => rfl) fun _ _ _ => rfl
  refine Mirrors.pair_writes ?_ fun _ _ _ => rfl
  exact .skip _ <| hcontent.bind fun _ _ hnone => .skip _ <| .pure hnone

theorem literal_writes : Mirrors (Writes Phrase.literals) Rules.literal literal :=
  string_writes.or_else <| .one_of (.cons timestamp_writes (.cons decimal_writes
    (.cons integer_writes (.cons boolean_writes .nil))))

theorem capture_writes : Mirrors (Writes Phrase.literals) Rules.capture capture := by
  have hindex : Mirrors (fun _ _ => True) Rules.captureIndex (rule .captureIndex digits) :=
    (Mirrors.refl _).token fun _ _ _ _ => trivial
  have hwhole : Mirrors (fun _ _ => True) (char '&' >>= fun _ => Rules.captureIndex)
      (char '&' >>= fun _ => rule .captureIndex digits) := .skip _ hindex
  refine Mirrors.pair (T := fun _ _ => True) (hwhole.lexeme.map_right fun _ _ _ => trivial) ?_
  intro start stop inner phrase _ hinner hphrase
  obtain ⟨middle, text, hstart, hmiddle, rfl⟩ := exists_capture_index hinner
  have htext : (Pair.stretch start stop).text = '&' :: text := stretch_text hstart
  have hindex : (Pair.lexeme (.mk .captureIndex middle stop [])).text = text := stretch_text hmiddle
  rw [eq_of_lexeme hphrase, htext]
  change [(LiteralKind.captureIndex, { Pair.stretch start stop with
    text := (Pair.lexeme (.mk .captureIndex middle stop [])).text })] ++ [] = _
  rw [hindex]
  rfl

theorem infix_op_writes : Mirrors (Writes noLiterals) Rules.infixOp binaryOp := by
  have hoperator : ∀ {goal : Goal} (op : BinaryOp) (symbol : Parser Unit),
      (∀ start stop inner, Pair.literal? (.mk goal start stop inner) = none) →
        Mirrors (Writes noLiterals) (token goal symbol)
          (rule goal (symbol >>= fun _ => pure op)) :=
    fun _ _ hgoal => .token_writes_nothing (fun _ => rfl) hgoal
  refine .one_of ?_
  iterate 12 refine .cons (hoperator _ _ fun _ _ _ => rfl) ?_
  exact .nil

/-! ## Expressions -/

theorem literals_of_all_eq (phrases : List Phrase) :
    Phrase.literalsOfAll phrases = phrases.flatMap Phrase.literals := by
  induction phrases with
  | nil => rfl
  | cons phrase phrases ih => rw [Phrase.literalsOfAll, ih, List.flatMap_cons]

theorem literals_of_chain_eq (more : List (BinaryOp × Phrase)) :
    Phrase.literalsOfChain more = more.flatMap fun operation => operation.2.literals := by
  induction more with
  | nil => rfl
  | cons operation more ih => rw [Phrase.literalsOfChain, ih, List.flatMap_cons]

section

variable {inner : Parser (List Pair)} {inner' : Parser Phrase}
  (h : Mirrors (Writes Phrase.literals) inner inner')

include h

theorem grouped_writes :
    Mirrors (Writes Phrase.literals) (Rules.grouped inner) (grouped inner') :=
  .skip _ <| .skip _ <| h.bind fun _ _ hinner => .skip _ <| .skip _ <| .pure hinner

theorem separated_writes :
    Mirrors (Writes (List.flatMap Phrase.literals)) (Rules.separated inner)
      (separated inner') := by
  have hnext : Mirrors (Writes Phrase.literals) (char ',' >>= fun _ => blanks >>= fun _ => inner)
      (char ',' >>= fun _ => blanks >>= fun _ => inner') := .skip _ <| .skip _ h
  have hall : Mirrors (Writes (List.flatMap Phrase.literals))
      (inner >>= fun first => blanks >>= fun _ =>
        manySpaced (char ',' >>= fun _ => blanks >>= fun _ => inner) >>= fun more =>
          pure (first ++ more.flatten))
      (inner' >>= fun first => blanks >>= fun _ =>
        manySpaced (char ',' >>= fun _ => blanks >>= fun _ => inner') >>= fun more =>
          pure (first :: more)) :=
    h.bind fun _ _ hfirst => .skip _ <| hnext.many_spaced.bind fun _ _ hmore =>
      .pure (hfirst.append (.flatten hmore))
  refine hall.optional.bind fun found other hfound => .pure ?_
  cases hfound with
  | none => rfl
  | some hfound => exact hfound

theorem list_writes : Mirrors (Writes Phrase.literals) (Rules.list inner) (list inner') := by
  refine Mirrors.pair_writes ?_ fun _ _ _ => rfl
  exact .skip _ <| .skip _ <| (separated_writes h).bind fun _ items hitems => .skip _ <|
    .skip _ <| .pure (hitems.trans (literals_of_all_eq items).symm)

theorem function_call_writes :
    Mirrors (Writes Phrase.literals) (Rules.functionCall inner) (functionCall inner') := by
  have harguments : Mirrors (Writes (List.flatMap Phrase.literals)) (Rules.callArguments inner)
      (callArguments inner') := by
    refine Mirrors.pair_writes ?_ fun _ _ _ => rfl
    exact .skip _ <| .skip _ <| (separated_writes h).bind fun _ _ hargs => .skip _ <|
      .skip _ <| .pure hargs
  refine Mirrors.pair_writes ?_ fun _ _ _ => rfl
  exact (name_writes fun _ _ _ => rfl).bind fun _ _ hname => harguments.bind fun _ args hargs =>
    .pure ((hname.append hargs).trans (literals_of_all_eq args).symm)

theorem lambda_writes : Mirrors (Writes Phrase.literals) (Rules.lambda inner) (lambda inner') := by
  have hbody : Mirrors (Writes Phrase.literals) (Rules.lambdaBody inner)
      (rule .lambdaBody (orElse (grouped inner') (list inner'))) :=
    ((grouped_writes h).or_else (list_writes h)).pair_writes fun _ _ _ => rfl
  refine Mirrors.pair_writes ?_ fun _ _ _ => rfl
  exact .skip _ <| hbody.map_right fun _ _ hwrites => hwrites

omit h in
theorem bound_writes {call group : Parser (List Pair)} {call' group' : Parser Phrase}
    (hcall : Mirrors (Writes Phrase.literals) call call')
    (hgroup : Mirrors (Writes Phrase.literals) group group') :
    Mirrors (Writes Phrase.literals) (Rules.bound call group) (bound call' group') :=
  .one_of (.cons integer_writes (.cons capture_writes (.cons hcall (.cons atom_writes
    (.cons hgroup .nil)))))

theorem range_writes {call group : Parser (List Pair)} {call' group' : Parser Phrase}
    (hcall : Mirrors (Writes Phrase.literals) call call')
    (hgroup : Mirrors (Writes Phrase.literals) group group') :
    Mirrors (Writes Phrase.literals) (Rules.range inner call group)
      (range inner' call' group') := by
  have hbound : Mirrors (Writes Phrase.literals)
      (Rules.bound (Rules.functionCall inner) (Rules.grouped inner))
      (bound (functionCall inner') (grouped inner')) :=
    bound_writes (function_call_writes h) (grouped_writes h)
  refine Mirrors.pair_writes ?_ fun _ _ _ => rfl
  refine (bound_writes hcall hgroup).bind fun _ _ hstart => .skip _ <| .skip _ <| .skip _ <|
    hbound.bind fun _ _ hstop => .skip _ <|
      (Mirrors.optional (.skip _ <| .skip _ hbound)).bind fun found step hfound => .pure ?_
  have hstep : Writes Phrase.literalsOfStep (found.getD []) step := by
    cases hfound with
    | none => rfl
    | some hfound => exact hfound
  rw [Writes, Pair.literals_of_all_append, hstart, Pair.literals_of_all_append, hstop, hstep]
  rfl

theorem primary_writes :
    Mirrors (Writes Phrase.literals) (Rules.primary inner) (primary inner') :=
  (function_call_writes h).sharing fun _ _ hcall => (grouped_writes h).sharing fun _ _ hgroup =>
    .one_of (.cons (range_writes h hcall hgroup) (.cons capture_writes (.cons (lambda_writes h)
      (.cons (list_writes h) (.cons hgroup (.cons literal_writes (.cons hcall (.cons atom_writes
      .nil))))))))

theorem postfix_op_writes :
    Mirrors (Writes Suffix.literals) (Rules.postfixOp inner) (suffix inner') := by
  have hattribute : Mirrors (Writes Suffix.literals) Rules.attributeOp property := by
    refine Mirrors.pair_writes ?_ fun _ _ _ => rfl
    exact .skip _ <| (name_writes fun _ _ _ => rfl).map_right fun _ _ hkey => hkey
  refine hattribute.or_else (Mirrors.pair_writes ?_ fun _ _ _ => rfl)
  exact .skip _ <| .skip _ <| h.bind fun _ _ hindex => .skip _ <| .skip _ <| .pure hindex

theorem operand_writes :
    Mirrors (Writes Phrase.literals) (Rules.operand inner) (operand inner') :=
  (primary_writes h).bind fun _ subject hsubject => .skip _ <|
    (postfix_op_writes h).many_spaced.bind fun _ suffixes hsuffixes =>
      .pure ((hsubject.append (.flatten hsuffixes)).trans
        (literals_attach_all suffixes subject).symm)

theorem expression_over_writes :
    Mirrors (Writes Phrase.literals) (Rules.expressionOver inner) (expressionOver inner') := by
  have hoperation : Mirrors (Writes fun operation => operation.2.literals) (Rules.operation inner)
      (operation inner') :=
    infix_op_writes.bind fun _ _ hop => .skip _ <| (operand_writes h).bind fun _ _ hright =>
      .pure (hop.append hright)
  refine Mirrors.pair_writes ?_ fun _ _ _ => rfl
  refine (operand_writes h).bind fun _ first hfirst => .skip _ <|
    hoperation.many_spaced.bind fun _ more hmore => .pure ?_
  rw [Writes, hfirst.append (.flatten hmore), Phrase.literals, literals_of_chain_eq]

end

theorem expression_within_writes (depth : Nat) :
    Mirrors (Writes Phrase.literals) (Rules.expressionWithin depth) (expressionWithin depth) := by
  induction depth with
  | zero => exact .fail
  | succ depth ih => exact expression_over_writes ih

/-- The literals of the pairs of an expression are those of its phrase. -/
theorem expression_writes : Mirrors (Writes Phrase.literals) Rules.expression expression :=
  fun c => expression_within_writes (c.bytesLeft + 1) c

/-! ## Templates -/

theorem segment_writes : Mirrors (Writes Segment.literals) Rules.segment segment := by
  have hescaped : Mirrors (Writes Segment.literals) Rules.escapedAt escapedAt :=
    .token_writes_nothing (fun _ => rfl) fun _ _ _ => rfl
  have hblock : Mirrors (Writes Segment.literals) Rules.expressionBlock expressionBlock := by
    refine Mirrors.pair_writes ?_ fun _ _ _ => rfl
    exact .skip _ <| .skip _ <| expression_writes.bind fun _ _ hphrase => .skip _ <|
      .skip _ <| .pure hphrase
  have hbare : Mirrors (Writes Segment.literals) Rules.bareExpression bareExpression := by
    refine Mirrors.pair_writes ?_ fun _ _ _ => rfl
    exact .skip _ <| ((function_call_writes expression_writes).or_else atom_writes).bind
      fun _ head hhead => (postfix_op_writes expression_writes).many.bind
        fun _ suffixes hsuffixes => .pure ((hhead.append (.flatten hsuffixes)).trans
          (literals_attach_all suffixes head).symm)
  have hplain : Mirrors (Writes Segment.literals) Rules.plainText plainText :=
    .token_writes_nothing (fun _ => rfl) fun _ _ _ => rfl
  exact .one_of (.cons hescaped (.cons hblock (.cons hbare (.cons hplain .nil))))

theorem the_end_writes : Mirrors (Writes noLiterals) Rules.theEnd theEnd :=
  ((Mirrors.refl _).mono fun _ _ _ => rfl).token_writes fun _ _ _ => rfl

/-- The literals of the pairs of a template are those of its segments. -/
theorem whole_template_writes :
    Mirrors (Writes (List.flatMap Segment.literals)) Rules.wholeTemplate wholeTemplate := by
  refine Mirrors.pair_writes ?_ fun _ _ _ => rfl
  exact segment_writes.many.bind fun _ _ hsegments => the_end_writes.bind fun _ _ hend =>
    .pure (((Writes.flatten hsegments).append hend).trans (List.append_nil _))

/-- The literals of the pairs of an input are those of its phrase. -/
theorem whole_expression_writes :
    Mirrors (Writes Phrase.literals) Rules.wholeExpression wholeExpression := by
  refine Mirrors.pair_writes ?_ fun _ _ _ => rfl
  exact .skip _ <| expression_writes.bind fun _ _ hphrase => .skip _ <|
    the_end_writes.bind fun _ _ hend => .pure ((hphrase.append hend).trans (List.append_nil _))

end TextTemplate.Grammar
