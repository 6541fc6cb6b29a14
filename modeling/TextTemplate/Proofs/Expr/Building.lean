import TextTemplate.Proofs.Expr.Grouping
import TextTemplate.Proofs.Grammar.Mirrors
import TextTemplate.Proofs.Grammar.Recognizer
import TextTemplate.Proofs.Grammar.Tokens

/-!
# Trees of pairs and of phrases

The builder of trees agrees with the grammar: what a rule leaves in pairs, the builder takes, and it
builds the tree of the phrase that the rule recognises (`Builds`, `expression_builds`). No pair is
missing and none is out of place, so that the builder only fails at a literal that denotes no value.
The operands of a chain are grouped before an error in them counts, but it is the error of the first
operand all the same (`read_expr_of_operations`).
-/

namespace TextTemplate.Grammar

open TextTemplate.Grammar.Parser

/-- The tree of the phrase, as the builder answers it. -/
def Phrase.built (phrase : Phrase) : Except BuildError Expr :=
  phrase.toExpr.mapError .literal

/-! ## What the builder makes of pairs -/

section

variable (start stop : Cursor)

theorem build_chained {first : Pair} (h : first.goal.isOperand) (more : List Pair) :
    buildExpr (.mk .expression start stop (first :: more)) =
      buildChain (buildExpr first) more >>= fun (operand, chain) =>
        (Grouping.ofChain operand chain).readExpr :=
  if_pos h

theorem build_list (items : List Pair) :
    buildExpr (.mk .list start stop items) = (buildAll items >>= fun items => pure (.list items)) :=
  rfl

theorem build_function_call (name : Pair) (goal : Goal) (first last : Cursor) (args : List Pair) :
    buildExpr (.mk .functionCall start stop [name, .mk goal first last args]) =
      (buildAll args >>= fun args => pure (.function (String.ofList name.lexeme.text) args)) :=
  rfl

theorem build_lambda (goal : Goal) (first last : Cursor) (body : Pair) :
    buildExpr (.mk .lambda start stop [.mk goal first last [body]]) =
      (buildExpr body >>= fun body => pure (.lambda [body])) :=
  rfl

theorem build_range (first last : Pair) :
    buildExpr (.mk .range start stop [first, last]) =
      (buildExpr first >>= fun first => buildExpr last >>= fun last =>
        pure (.range first last none)) :=
  rfl

theorem build_range_by (first last step : Pair) :
    buildExpr (.mk .range start stop [first, last, step]) =
      (buildExpr first >>= fun first => buildExpr last >>= fun last =>
        buildExpr step >>= fun step => pure (.range first last (some step))) :=
  rfl

theorem build_attribute (subject : Expr) (key : Pair) :
    buildPostfix subject (.mk .attributeOp start stop [key]) =
      pure (.property subject (String.ofList key.lexeme.text)) :=
  rfl

theorem build_index (subject : Expr) (index : Pair) :
    buildPostfix subject (.mk .indexOp start stop [index]) =
      (buildExpr index >>= fun index => pure (.access subject index)) :=
  rfl

theorem build_bare (head : Pair) (suffixes : List Pair) :
    buildSegment (.mk .bareExpression start stop (head :: suffixes)) =
      (buildExpr head >>= fun subject => buildPostfixes subject suffixes) :=
  rfl

end

theorem build_all_cons (pair : Pair) (pairs : List Pair) :
    buildAll (pair :: pairs) =
      (buildExpr pair >>= fun expr => buildAll pairs >>= fun exprs => pure (expr :: exprs)) :=
  rfl

/-- The operand behind an operator is built with all that follows it. -/
theorem build_chain_operator {op : BinaryOp} {pair next : Pair}
    (hop : pair.goal.operator? = some op) (hnext : next.goal.isOperand)
    (subject : Except BuildError Expr) (more : List Pair) :
    buildChain subject (pair :: next :: more) =
      buildChain (buildExpr next) more >>= fun (operand, chain) =>
        pure (subject, (op, operand) :: chain) := by
  rw [buildChain.eq_3 _ _ _ _ _ hop, if_pos hnext]

/-- A postfix operator builds on the subject before anything else that follows it. -/
theorem build_chain_postfix {pair : Pair} (hbehind : pair.goal.isPostfix)
    (hop : pair.goal.operator? = none) (subject : Except BuildError Expr) (rest : List Pair) :
    buildChain subject (pair :: rest) =
      buildChain (subject >>= fun subject => buildPostfix subject pair) rest := by
  simp only [buildChain, hop, if_pos hbehind]

theorem build_segments_cons {pair : Pair} (h : pair.goal ≠ .endOfInput) (pairs : List Pair) :
    buildSegments (pair :: pairs) =
      (buildSegment pair >>= fun segment => buildSegments pairs >>= fun segments =>
        pure (segment :: segments)) :=
  if_neg h

/-! ## Pairs of phrases -/

/-- The pairs are those of the values, one behind the other. -/
def Each {α : Type} (R : List Pair → α → Prop) (pairs : List Pair) (values : List α) : Prop :=
  ∃ parts, pairs = parts.flatten ∧ List.Forall₂ R parts values

/-- There is one pair, of the given rule, and it holds the pairs of the value. -/
def Leaves {α : Type} (goal : Goal) (R : List Pair → α → Prop) (pairs : List Pair) (value : α) :
    Prop :=
  ∃ start stop inner, pairs = [.mk goal start stop inner] ∧ R inner value

/-- There is one pair, of the given rule, and it takes the text. -/
def Spelled (goal : Goal) (pairs : List Pair) (text : List Char) : Prop :=
  ∃ start stop, pairs = [.mk goal start stop []] ∧ (Pair.stretch start stop).text = text

/-- There is one pair, which stands for an operand, and its tree is that of the phrase. -/
def Builds (pairs : List Pair) (phrase : Phrase) : Prop :=
  ∃ pair, pairs = [pair] ∧ pair.goal.isOperand ∧ buildExpr pair = phrase.built

/-- There is one pair, which stands for what follows an operand, and it builds on the tree of any
phrase the tree of the phrase with the suffix. -/
def BuildsSuffix (pairs : List Pair) (suffix : Suffix) : Prop :=
  ∃ pair, pairs = [pair] ∧ pair.goal.isPostfix ∧ pair.goal.operator? = none ∧
    ∀ phrase : Phrase, (phrase.built >>= fun subject => buildPostfix subject pair) =
      (suffix.attach phrase).built

/-- The pairs are an operand with what follows it, and what stands behind them is built behind the
tree of the phrase. -/
def BuildsOperand (pairs : List Pair) (phrase : Phrase) : Prop :=
  ∃ head suffixes, pairs = head :: suffixes ∧ head.goal.isOperand ∧
    ∀ rest, buildChain (buildExpr head) (suffixes ++ rest) = buildChain phrase.built rest

/-- The pairs are an operator and its right operand. -/
def BuildsOperation (pairs : List Pair) (operation : BinaryOp × Phrase) : Prop :=
  ∃ op right, pairs = op :: right ∧ op.goal.operator? = some operation.1 ∧
    BuildsOperand right operation.2

/-! ## Names, literals and operators -/

theorem ident_spells : Spells Eq ident := by
  intro cs name rest hread
  obtain ⟨hcs, -⟩ := exists_name_of_ident hread
  exact ⟨name, hcs, rfl⟩

theorem name_spelled (goal : Goal) : Mirrors (Spelled goal) (token goal ident) (rule goal ident) :=
  (Mirrors.refl ident).token_text ident_spells fun start stop _ htext => ⟨start, stop, rfl, htext⟩

theorem atom_builds : Mirrors Builds Rules.atom atom := by
  refine Mirrors.token_text (R := fun _ _ => True) (P := fun text phrase => phrase = .atom text)
    ?_ ?_ ?_
  · exact (Mirrors.refl _).map_right fun _ _ _ => trivial
  · refine ident_spells.bind fun first name hname => .pure ?_
    rw [hname, List.append_nil]
  · intro start stop phrase hphrase
    refine ⟨_, rfl, rfl, ?_⟩
    rw [hphrase]
    rfl

theorem checked_tree_eq {α : Type} (kind : LiteralKind) (lexeme : Lexeme) (value : Option α)
    (tree : α → Expr) :
    checkedTree kind lexeme value tree =
      (Phrase.checked kind lexeme value tree).mapError .literal := by
  cases value <;> rfl

theorem integer_builds : Mirrors Builds Rules.integer integer :=
  (Mirrors.refl _).token_lexeme fun _ _ => ⟨_, rfl, rfl, checked_tree_eq _ _ _ _⟩

theorem decimal_builds : Mirrors Builds Rules.decimal decimal :=
  (Mirrors.refl _).token_lexeme fun _ _ => ⟨_, rfl, rfl, checked_tree_eq _ _ _ _⟩

theorem timestamp_builds : Mirrors Builds Rules.timestamp timestamp :=
  (Mirrors.refl _).token_lexeme fun _ _ => ⟨_, rfl, rfl, checked_tree_eq _ _ _ _⟩

theorem digits_spell : Spells (fun _ _ => True) digits :=
  (Spells.take_while1 _).bind fun _ _ _ => .pure trivial

theorem word_spells (letters : List Char) :
    Spells (fun text _ => text.map Char.toLower = letters) (word letters) := by
  induction letters with
  | nil => exact .pure rfl
  | cons letter letters ih =>
      refine (Spells.satisfy _).bind fun first c hfirst => ih.mono fun second _ hsecond => ?_
      obtain ⟨rfl, hc⟩ := hfirst
      rw [List.cons_append, List.nil_append, List.map_cons, hsecond, beq_iff_eq.mp hc]

/-- The two words for truth values are read with their values. -/
theorem truth_words_spell :
    Spells (fun text value => text.map Char.toLower = truthWord value)
      (orElse (word ['t', 'r', 'u', 'e'] >>= fun _ => pure true)
        (word ['f', 'a', 'l', 's', 'e'] >>= fun _ => pure false)) := by
  have hword : ∀ value, Spells (fun text value => text.map Char.toLower = truthWord value)
      (word (truthWord value) >>= fun _ => pure value) := by
    intro value
    refine (word_spells _).bind fun first _ hfirst => .pure ?_
    rw [List.append_nil, hfirst]
  exact (hword true).or_else (hword false)

theorem boolean_builds : Mirrors Builds Rules.boolean boolean := by
  refine Mirrors.token_text (R := fun _ _ => True)
    (P := fun text phrase => phrase = .boolean (text.map Char.toLower == ['t', 'r', 'u', 'e']))
    ?_ ?_ ?_
  · have hword : ∀ letters (value : Bool), Mirrors (fun _ _ => True) (word letters)
        (word letters >>= fun _ => pure value) := fun letters value =>
      (Mirrors.refl _).map_right fun _ _ _ => trivial
    exact ((hword _ true).or_else (hword _ false)).bind fun _ value _ =>
      (Mirrors.refl _).map_right fun _ _ _ => trivial
  · refine truth_words_spell.bind fun first value hfirst =>
      (Spells.absent _).bind fun second _ hsecond => .pure ?_
    rw [hsecond, List.nil_append, List.append_nil, hfirst]
    cases value <;> rfl
  · intro start stop phrase hphrase
    refine ⟨_, rfl, rfl, ?_⟩
    rw [hphrase]
    rfl

theorem string_part_spells : Spells Eq stringPart := by
  refine ((Spells.satisfy _).bind fun first c hfirst => .pure ?_).or_else
    ((Spells.satisfy _).bind fun first c hfirst =>
      (Spells.satisfy _).bind fun second d hsecond => .pure ?_)
  · rw [hfirst.1, List.append_nil]
  · rw [hfirst.1, hsecond.1, beq_iff_eq.mp hfirst.2]
    rfl

theorem string_content_spelled :
    Mirrors (Spelled .stringContent) Rules.stringContent stringContent := by
  refine Mirrors.token_text (R := fun _ _ => True) (P := Eq) ?_ ?_ ?_
  · exact (Mirrors.refl _).map_right fun _ _ _ => trivial
  · refine string_part_spells.many.bind fun text parts htext => .pure ?_
    rw [htext, List.append_nil]
  · exact fun start stop _ htext => ⟨start, stop, rfl, htext⟩

theorem string_builds : Mirrors Builds Rules.string string := by
  refine Mirrors.pair (T := fun pairs phrase => ∃ content, Spelled .stringContent pairs content ∧
    phrase = .string (unescaped content)) ?_ ?_
  · exact .skip _ <| string_content_spelled.bind fun _ content hcontent => .skip _ <|
      .pure ⟨content, hcontent, rfl⟩
  · rintro start stop _ _ ⟨_, ⟨first, last, rfl, rfl⟩, rfl⟩ - -
    exact ⟨_, rfl, rfl, rfl⟩

theorem scalar_builds : Mirrors Builds Rules.scalar scalar :=
  .one_of (.cons timestamp_builds (.cons decimal_builds (.cons integer_builds
    (.cons boolean_builds .nil))))

theorem literal_builds : Mirrors Builds Rules.literal literal :=
  string_builds.or_else scalar_builds

/-- The index of a capture lies behind the ampersand. -/
theorem exists_capture_index {start stop : Cursor} {inner : List Pair}
    (h : ((char '&' >>= fun _ => Rules.captureIndex) start).outcome = some (inner, stop)) :
    ∃ middle text, start.rest = '&' :: (text ++ stop.rest) ∧ middle.rest = text ++ stop.rest ∧
      inner = [.mk .captureIndex middle stop []] := by
  rw [outcome_bind] at h
  obtain ⟨⟨c, middle⟩, hchar, hindex⟩ := Option.bind_eq_some_iff.mp h
  change (pair .captureIndex (digits >>= fun _ => pure []) middle).outcome = _ at hindex
  rw [outcome_pair, outcome_bind] at hindex
  obtain ⟨⟨_, _⟩, hbody, hpair⟩ := Option.map_eq_some_iff.mp hindex
  obtain ⟨⟨_, after⟩, hdigits, hnone⟩ := Option.bind_eq_some_iff.mp hbody
  obtain ⟨rfl, rfl⟩ := Prod.mk.inj (Option.some.inj hnone)
  obtain ⟨rfl, rfl⟩ := Prod.mk.inj hpair
  obtain ⟨text, hmiddle, -⟩ := digits_spell _ _ _ (reads?_of_outcome hdigits)
  refine ⟨middle, text, ?_, hmiddle, rfl⟩
  rw [eq_cons_of_char (reads?_of_outcome hchar), hmiddle]

theorem capture_builds : Mirrors Builds Rules.capture capture := by
  have hindex : Mirrors (fun _ _ => True) Rules.captureIndex (rule .captureIndex digits) :=
    (Mirrors.refl _).token fun _ _ _ _ => trivial
  have hwhole : Mirrors (fun _ _ => True) (char '&' >>= fun _ => Rules.captureIndex)
      (char '&' >>= fun _ => rule .captureIndex digits) := .skip _ hindex
  refine Mirrors.pair (T := fun _ _ => True) (hwhole.lexeme.map_right fun _ _ _ => trivial) ?_
  intro start stop inner phrase _ hinner hphrase
  obtain ⟨middle, text, hstart, hmiddle, rfl⟩ := exists_capture_index hinner
  have htext : (Pair.stretch start stop).text = '&' :: text := stretch_text hstart
  have hindex : (Pair.lexeme (.mk .captureIndex middle stop [])).text = text := stretch_text hmiddle
  refine ⟨_, rfl, rfl, (checked_tree_eq _ _ _ _).trans ?_⟩
  rw [eq_of_lexeme hphrase, htext, hindex]
  rfl

/-- There is one pair, which stands for the operator. -/
def BuildsOperator (pairs : List Pair) (op : BinaryOp) : Prop :=
  ∃ pair, pairs = [pair] ∧ pair.goal.operator? = some op

theorem operator_builds {goal : Goal} {op : BinaryOp} (h : goal.operator? = some op)
    (symbol : Parser Unit) :
    Mirrors BuildsOperator (token goal symbol) (rule goal (symbol >>= fun _ => pure op)) := by
  refine Mirrors.pair (T := fun _ other => other = op) (.skip _ <| .pure rfl) ?_
  rintro start stop inner _ rfl - -
  exact ⟨_, rfl, h⟩

theorem infix_op_builds : Mirrors BuildsOperator Rules.infixOp binaryOp := by
  refine .one_of ?_
  iterate 12 refine .cons (operator_builds rfl _) ?_
  exact .nil

/-! ## Expressions -/

/-- The trees of pairs are those of the phrases. -/
theorem build_all_eq {pairs : List Pair} {phrases : List Phrase} (h : Each Builds pairs phrases) :
    buildAll pairs = (Phrase.allToExpr phrases).mapError .literal := by
  obtain ⟨parts, rfl, hparts⟩ := h
  induction hparts with
  | nil => rfl
  | cons hfirst _ ih =>
      obtain ⟨pair, rfl, -, hpair⟩ := hfirst
      rw [List.flatten_cons, List.singleton_append, build_all_cons, hpair, ih, Phrase.built,
        Phrase.allToExpr]
      simp only [map_error_bind, map_error_pure]

/-- Postfix operators build on the subject before anything else that follows it. -/
theorem build_chain_postfixes {suffixes : List Pair}
    (h : ∀ pair ∈ suffixes, pair.goal.isPostfix ∧ pair.goal.operator? = none)
    (subject : Except BuildError Expr) (rest : List Pair) :
    buildChain subject (suffixes ++ rest) =
      buildChain (subject >>= fun subject => buildPostfixes subject suffixes) rest := by
  induction suffixes generalizing subject with
  | nil => exact congrArg (buildChain · rest) (bind_pure subject).symm
  | cons pair suffixes ih =>
      obtain ⟨⟨hbehind, hoperator⟩, hsuffixes⟩ := List.forall_mem_cons.mp h
      simp only [List.cons_append, build_chain_postfix hbehind hoperator, ih hsuffixes,
        buildPostfixes, List.foldlM_cons, bind_assoc]

/-- Postfix operators build on the tree of a phrase the tree of the phrase with the suffixes. -/
theorem build_postfixes_eq {pairs : List Pair} {suffixes : List Suffix}
    (h : Each BuildsSuffix pairs suffixes) (phrase : Phrase) :
    (phrase.built >>= fun subject => buildPostfixes subject pairs) =
      (suffixes.foldl Suffix.attach phrase).built := by
  obtain ⟨parts, rfl, hparts⟩ := h
  induction hparts generalizing phrase with
  | nil => exact bind_pure _
  | cons hfirst _ ih =>
      obtain ⟨pair, rfl, -, -, hpair⟩ := hfirst
      rw [List.flatten_cons, List.singleton_append, List.foldl_cons, ← ih, ← hpair, bind_assoc]
      rfl

/-- The pairs of suffixes stand for what follows an operand. -/
theorem postfixes_of_each {pairs : List Pair} {suffixes : List Suffix}
    (h : Each BuildsSuffix pairs suffixes) :
    ∀ pair ∈ pairs, pair.goal.isPostfix ∧ pair.goal.operator? = none := by
  obtain ⟨parts, rfl, hparts⟩ := h
  induction hparts with
  | nil => exact List.forall_mem_nil _
  | cons hfirst _ ih =>
      obtain ⟨pair, rfl, hbehind, hoperator, -⟩ := hfirst
      rw [List.flatten_cons, List.singleton_append]
      exact List.forall_mem_cons.mpr ⟨⟨hbehind, hoperator⟩, ih⟩

/-- Operators with their operands are built one by one behind the subject. -/
theorem build_chain_eq {pairs : List Pair} {operations : List (BinaryOp × Phrase)}
    (h : Each BuildsOperation pairs operations) (subject : Except BuildError Expr) :
    buildChain subject pairs =
      .ok (subject, operations.map fun operation => (operation.1, operation.2.built)) := by
  obtain ⟨parts, rfl, hparts⟩ := h
  induction hparts generalizing subject with
  | nil => rfl
  | cons hfirst _ ih =>
      obtain ⟨op, _, rfl, hop, head, suffixes, rfl, hoperand, hbuild⟩ := hfirst
      rw [List.flatten_cons, List.cons_append, List.cons_append,
        build_chain_operator hop hoperand, hbuild, ih, List.map_cons]
      rfl

/-- The trees of the operands of a chain are read one by one. -/
theorem chain_to_expr_eq (operations : List (BinaryOp × Phrase)) :
    (Phrase.chainToExpr operations).mapError .literal =
      (operations.map fun operation => (operation.1, operation.2.built)).mapM
        fun operation => do
          let last ← operation.2
          return (operation.1, last) := by
  induction operations with
  | nil => rfl
  | cons operation operations ih =>
      obtain ⟨op, phrase⟩ := operation
      rw [Phrase.chainToExpr, List.map_cons, List.mapM_cons, ← ih, map_error_bind]
      simp only [Phrase.built, map_error_bind, map_error_pure, bind_assoc, pure_bind]

/-- Whatever the operators are, the tree of a chain fails where its first operand without a tree
does. -/
theorem read_expr_of_operations (first : Phrase) (operations : List (BinaryOp × Phrase)) :
    (Grouping.ofChain first.built
        (operations.map fun operation => (operation.1, operation.2.built))).readExpr =
      (Phrase.chain first operations).built := by
  rw [Grouping.read_expr_eq, Grouping.read_of_chain, ← chain_to_expr_eq, Phrase.built,
    Phrase.built, Phrase.toExpr]
  simp only [map_error_bind, map_error_pure, bind_assoc, pure_bind]
  rfl

section

variable {inner : Parser (List Pair)} {inner' : Parser Phrase} (h : Mirrors Builds inner inner')

include h

theorem grouped_builds : Mirrors Builds (Rules.grouped inner) (grouped inner') :=
  .skip _ <| .skip _ <| h.bind fun _ _ hbuilds =>
    .skip _ <| .skip _ <| .pure hbuilds

theorem separated_builds : Mirrors (Each Builds) (Rules.separated inner) (separated inner') := by
  have hnext : Mirrors Builds (char ',' >>= fun _ => blanks >>= fun _ => inner)
      (char ',' >>= fun _ => blanks >>= fun _ => inner') :=
    .skip _ <| .skip _ <| h
  have hall : Mirrors (Each Builds)
      (inner >>= fun first => blanks >>= fun _ =>
        manySpaced (char ',' >>= fun _ => blanks >>= fun _ => inner) >>= fun more =>
          pure (first ++ more.flatten))
      (inner' >>= fun first => blanks >>= fun _ =>
        manySpaced (char ',' >>= fun _ => blanks >>= fun _ => inner') >>= fun more =>
          pure (first :: more)) :=
    h.bind fun first _ hfirst => .skip _ <|
      hnext.many_spaced.bind fun more _ hmore =>
        .pure ⟨first :: more, List.flatten_cons.symm, .cons hfirst hmore⟩
  refine hall.optional.bind fun found other hfound => .pure ?_
  cases hfound with
  | none => exact ⟨[], rfl, .nil⟩
  | some hfound => exact hfound

theorem list_builds : Mirrors Builds (Rules.list inner) (list inner') := by
  refine Mirrors.pair (T := fun pairs phrase => ∃ items, Each Builds pairs items ∧
    phrase = .list items) ?_ ?_
  · exact .skip _ <| .skip _ <| (separated_builds h).bind fun _ items hitems => .skip _ <|
      .skip _ <| .pure ⟨items, hitems, rfl⟩
  · rintro start stop pairs _ ⟨items, hitems, rfl⟩ - -
    refine ⟨_, rfl, rfl, ?_⟩
    rw [build_list, build_all_eq hitems, Phrase.built, Phrase.toExpr, map_error_bind]
    rfl

theorem call_arguments_leave :
    Mirrors (Leaves .callArguments (Each Builds)) (Rules.callArguments inner)
      (callArguments inner') := by
  refine Mirrors.pair (T := Each Builds) ?_ ?_
  · exact .skip _ <| .skip _ <| (separated_builds h).bind fun _ _ hargs => .skip _ <|
      .skip _ <| .pure hargs
  · exact fun start stop pairs args hargs _ _ => ⟨start, stop, pairs, rfl, hargs⟩

theorem function_call_builds : Mirrors Builds (Rules.functionCall inner) (functionCall inner') := by
  refine Mirrors.pair (T := fun pairs phrase => ∃ first second name args,
    Spelled .functionName first name ∧ Leaves .callArguments (Each Builds) second args ∧
      pairs = first ++ second ∧ phrase = .call name args) ?_ ?_
  · exact (name_spelled _).bind fun first name hname => (call_arguments_leave h).bind
      fun second args hargs => .pure ⟨first, second, name, args, hname, hargs, rfl, rfl⟩
  · rintro start stop _ _ ⟨_, _, _, args, ⟨_, _, rfl, rfl⟩, ⟨_, _, inside, rfl, hargs⟩, rfl, rfl⟩ - -
    refine ⟨_, rfl, rfl, ?_⟩
    rw [List.singleton_append, build_function_call, build_all_eq hargs, Phrase.built,
      Phrase.toExpr, map_error_bind]
    rfl

theorem lambda_builds : Mirrors Builds (Rules.lambda inner) (lambda inner') := by
  have hbody : Mirrors (Leaves .lambdaBody Builds) (Rules.lambdaBody inner)
      (rule .lambdaBody (orElse (grouped inner') (list inner'))) :=
    ((grouped_builds h).or_else (list_builds h)).pair fun start stop pairs _ hbuilds _ _ =>
      ⟨start, stop, pairs, rfl, hbuilds⟩
  refine Mirrors.pair (T := fun pairs phrase => ∃ body, Leaves .lambdaBody Builds pairs body ∧
    phrase = .lambda body) ?_ ?_
  · exact .skip _ <| hbody.map_right fun _ body hbuilds => ⟨body, hbuilds, rfl⟩
  · rintro start stop _ _ ⟨body, ⟨_, _, _, rfl, pair, rfl, -, hpair⟩, rfl⟩ - -
    refine ⟨_, rfl, rfl, ?_⟩
    rw [build_lambda, hpair, Phrase.built, Phrase.built, Phrase.toExpr, map_error_bind]
    rfl

omit h in
theorem bound_builds {call group : Parser (List Pair)} {call' group' : Parser Phrase}
    (hcall : Mirrors Builds call call') (hgroup : Mirrors Builds group group') :
    Mirrors Builds (Rules.bound call group) (bound call' group') :=
  .one_of (.cons integer_builds (.cons capture_builds (.cons hcall (.cons atom_builds
    (.cons hgroup .nil)))))

theorem range_builds {call group : Parser (List Pair)} {call' group' : Parser Phrase}
    (hcall : Mirrors Builds call call') (hgroup : Mirrors Builds group group') :
    Mirrors Builds (Rules.range inner call group) (range inner' call' group') := by
  have hbound : Mirrors Builds (Rules.bound (Rules.functionCall inner) (Rules.grouped inner))
      (bound (functionCall inner') (grouped inner')) :=
    bound_builds (function_call_builds h) (grouped_builds h)
  refine Mirrors.pair (T := fun pairs phrase => ∃ first last step start stop step',
    Builds first start ∧ Builds last stop ∧ Option.Rel Builds step step' ∧
      pairs = first ++ (last ++ step.getD []) ∧ phrase = .range start stop step') ?_ ?_
  · exact (bound_builds hcall hgroup).bind fun first start hstart => .skip _ <| .skip _ <|
      .skip _ <| hbound.bind fun last stop hstop => .skip _ <|
        (Mirrors.optional (.skip _ <| .skip _ hbound)).bind fun step step' hstep =>
          .pure ⟨first, last, step, start, stop, step', hstart, hstop, hstep, rfl, rfl⟩
  · rintro start stop _ _ ⟨_, _, _, _, _, _, ⟨first, rfl, -, hfirst⟩, ⟨last, rfl, -, hlast⟩, hstep,
      rfl, rfl⟩ - -
    refine ⟨_, rfl, rfl, ?_⟩
    cases hstep with
    | none =>
        rw [Option.getD_none, List.append_nil, List.singleton_append, build_range, hfirst, hlast]
        simp only [Phrase.built, Phrase.toExpr, map_error_bind]
        rfl
    | some hstep =>
        obtain ⟨step, rfl, -, hstep⟩ := hstep
        rw [Option.getD_some, List.singleton_append, List.singleton_append, build_range_by, hfirst,
          hlast, hstep]
        simp only [Phrase.built, Phrase.toExpr, Phrase.stepToExpr, map_error_bind, map_error_pure,
          bind_assoc, pure_bind]

theorem primary_builds : Mirrors Builds (Rules.primary inner) (primary inner') :=
  (function_call_builds h).sharing fun _ _ hcall => (grouped_builds h).sharing fun _ _ hgroup =>
    .one_of (.cons (range_builds h hcall hgroup) (.cons capture_builds (.cons (lambda_builds h)
      (.cons (list_builds h) (.cons hgroup (.cons literal_builds (.cons hcall (.cons atom_builds
      .nil))))))))

omit h in
theorem attribute_op_builds : Mirrors BuildsSuffix Rules.attributeOp property := by
  refine Mirrors.pair (T := fun pairs suffix => ∃ key, Spelled .attributeKey pairs key ∧
    suffix = .property key) ?_ ?_
  · exact .skip _ <| (name_spelled _).map_right fun _ key hkey => ⟨key, hkey, rfl⟩
  · rintro start stop _ _ ⟨key, ⟨_, _, rfl, rfl⟩, rfl⟩ - -
    refine ⟨_, rfl, rfl, rfl, fun phrase => ?_⟩
    rw [Suffix.attach, Phrase.built, Phrase.built, Phrase.toExpr, map_error_bind]
    simp only [build_attribute]
    rfl

theorem index_op_builds : Mirrors BuildsSuffix (Rules.indexOp inner) (index inner') := by
  refine Mirrors.pair (T := fun pairs suffix => ∃ index, Builds pairs index ∧
    suffix = .access index) ?_ ?_
  · exact .skip _ <| .skip _ <| h.bind fun _ index hindex => .skip _ <| .skip _ <|
      .pure ⟨index, hindex, rfl⟩
  · rintro start stop _ _ ⟨index, ⟨pair, rfl, -, hpair⟩, rfl⟩ - -
    refine ⟨_, rfl, rfl, rfl, fun phrase => ?_⟩
    rw [Suffix.attach, Phrase.built, Phrase.built, Phrase.toExpr, map_error_bind]
    simp only [build_index, hpair, Phrase.built, map_error_bind]
    rfl

theorem postfix_op_builds : Mirrors BuildsSuffix (Rules.postfixOp inner) (suffix inner') :=
  attribute_op_builds.or_else (index_op_builds h)

theorem operand_builds : Mirrors BuildsOperand (Rules.operand inner) (operand inner') := by
  refine (primary_builds h).bind fun pairs phrase hphrase => .skip _ <|
    (postfix_op_builds h).many_spaced.bind fun parts suffixes hparts => .pure ?_
  obtain ⟨head, rfl, hoperand, hhead⟩ := hphrase
  have heach : Each BuildsSuffix parts.flatten suffixes := ⟨parts, rfl, hparts⟩
  refine ⟨head, parts.flatten, rfl, hoperand, fun rest => ?_⟩
  rw [build_chain_postfixes (postfixes_of_each heach), hhead, build_postfixes_eq heach]

theorem operation_builds : Mirrors BuildsOperation (Rules.operation inner) (operation inner') := by
  refine infix_op_builds.bind fun pairs op hop => .skip _ <|
    (operand_builds h).bind fun right phrase hright => .pure ?_
  obtain ⟨pair, rfl, hpair⟩ := hop
  exact ⟨pair, right, rfl, hpair, hright⟩

theorem expression_over_builds :
    Mirrors Builds (Rules.expressionOver inner) (expressionOver inner') := by
  refine Mirrors.pair (T := fun pairs phrase => ∃ first more operand operations,
    BuildsOperand first operand ∧ Each BuildsOperation more operations ∧
      pairs = first ++ more ∧ phrase = .chain operand operations) ?_ ?_
  · exact (operand_builds h).bind fun first operand hfirst => .skip _ <|
      (operation_builds h).many_spaced.bind fun parts operations hparts =>
        .pure ⟨first, parts.flatten, operand, operations, hfirst, ⟨parts, rfl, hparts⟩, rfl, rfl⟩
  · rintro start stop _ _ ⟨_, more, operand, operations, ⟨head, suffixes, rfl, hoperand, hbuild⟩,
      hmore, rfl, rfl⟩ - -
    refine ⟨_, rfl, rfl, ?_⟩
    rw [List.cons_append, build_chained _ _ hoperand, hbuild, build_chain_eq hmore]
    exact read_expr_of_operations operand operations

end

theorem expression_within_builds (depth : Nat) :
    Mirrors Builds (Rules.expressionWithin depth) (expressionWithin depth) := by
  induction depth with
  | zero => exact .fail
  | succ depth ih => exact expression_over_builds ih

theorem expression_builds : Mirrors Builds Rules.expression expression :=
  fun c => expression_within_builds (c.bytesLeft + 1) c

/-! ## Templates -/

/-- There is one pair, which is not that of the end, and its tree is that of the segment. -/
def BuildsSegment (pairs : List Pair) (segment : Segment) : Prop :=
  ∃ pair, pairs = [pair] ∧ pair.goal ≠ .endOfInput ∧
    buildSegment pair = segment.toExpr.mapError .literal

theorem escaped_at_builds : Mirrors BuildsSegment Rules.escapedAt escapedAt := by
  have hgoal : Goal.escapedAt ≠ .endOfInput := by decide
  refine Mirrors.pair (T := fun _ segment => segment = .text ['@']) (.skip _ <| .pure rfl) ?_
  rintro start stop inner _ rfl - -
  exact ⟨_, rfl, hgoal, rfl⟩

theorem expression_block_builds :
    Mirrors BuildsSegment Rules.expressionBlock expressionBlock := by
  have hgoal : Goal.expressionBlock ≠ .endOfInput := by decide
  refine Mirrors.pair (T := fun pairs segment => ∃ phrase, Builds pairs phrase ∧
    segment = .expression phrase) ?_ ?_
  · exact .skip _ <| .skip _ <| expression_builds.bind fun _ phrase hphrase => .skip _ <|
      .skip _ <| .pure ⟨phrase, hphrase, rfl⟩
  · rintro start stop _ _ ⟨phrase, ⟨pair, rfl, -, hpair⟩, rfl⟩ - -
    exact ⟨_, rfl, hgoal, hpair⟩

theorem bare_expression_builds : Mirrors BuildsSegment Rules.bareExpression bareExpression := by
  have hgoal : Goal.bareExpression ≠ .endOfInput := by decide
  have hhead : Mirrors Builds (orElse (Rules.functionCall Rules.expression) Rules.atom)
      (orElse (functionCall expression) atom) :=
    (function_call_builds expression_builds).or_else atom_builds
  refine Mirrors.pair (T := fun pairs segment => ∃ first more head suffixes, Builds first head ∧
    Each BuildsSuffix more suffixes ∧ pairs = first ++ more ∧
      segment = .expression (suffixes.foldl Suffix.attach head)) ?_ ?_
  · exact .skip _ <| hhead.bind fun first head hfirst =>
      (postfix_op_builds expression_builds).many.bind fun parts suffixes hparts =>
        .pure ⟨first, parts.flatten, head, suffixes, hfirst, ⟨parts, rfl, hparts⟩, rfl, rfl⟩
  · rintro start stop _ _ ⟨_, more, head, suffixes, ⟨pair, rfl, -, hpair⟩, hmore, rfl, rfl⟩ - -
    refine ⟨_, rfl, hgoal, ?_⟩
    rw [List.singleton_append, build_bare, hpair, build_postfixes_eq hmore]
    rfl

theorem plain_text_builds : Mirrors BuildsSegment Rules.plainText plainText := by
  have hgoal : Goal.plainText ≠ .endOfInput := by decide
  have hlone : Spells Eq (char '@' >>= fun c => absent (char '(') >>= fun _ => pure [c]) := by
    refine (Spells.satisfy _).bind fun first c hfirst => (Spells.absent _).bind
      fun second _ hsecond => .pure ?_
    rw [hfirst.1, hsecond]
    rfl
  refine Mirrors.token_text (R := fun _ _ => True) (P := fun text segment => segment = .text text)
    ?_ ?_ ?_
  · exact (Mirrors.refl _).map_right fun _ _ _ => trivial
  · refine ((Spells.take_while1 _).or_else hlone).bind fun first text hfirst => .pure ?_
    rw [hfirst, List.append_nil]
  · intro start stop segment hsegment
    refine ⟨_, rfl, hgoal, ?_⟩
    rw [hsegment]
    rfl

theorem segment_builds : Mirrors BuildsSegment Rules.segment segment :=
  .one_of (.cons escaped_at_builds (.cons expression_block_builds (.cons bare_expression_builds
    (.cons plain_text_builds .nil))))

/-- The pairs are those of the value with the pair of the end behind them. -/
def Ended {α : Type} (R : List Pair → α → Prop) (pairs : List Pair) (value : α) : Prop :=
  ∃ inner last, pairs = inner ++ [last] ∧ last.goal = .endOfInput ∧ R inner value

/-- There is one pair, which holds the pairs of the value and the pair of the end. -/
def Holds {α : Type} (R : List Pair → α → Prop) (pairs : List Pair) (value : α) : Prop :=
  ∃ pair, pairs = [pair] ∧ Ended R pair.inner value

/-- The trees of the pairs of a template are those of its segments. -/
theorem build_segments_eq {pairs : List Pair} {segments : List Segment}
    (h : Ended (Each BuildsSegment) pairs segments) :
    buildSegments pairs = (Segment.allToExpr segments).mapError .literal := by
  obtain ⟨_, last, rfl, hlast, parts, rfl, hparts⟩ := h
  induction hparts with
  | nil =>
      exact if_pos hlast
  | cons hfirst _ ih =>
      obtain ⟨pair, rfl, hgoal, hpair⟩ := hfirst
      rw [List.flatten_cons, List.singleton_append, List.cons_append, build_segments_cons hgoal,
        hpair, ih, Segment.allToExpr]
      simp only [map_error_bind, map_error_pure]

theorem the_end_builds {α : Type} {R : List Pair → α → Prop} {inner : List Pair} {value : α}
    (h : R inner value) :
    Mirrors (Ended R) (Rules.theEnd >>= fun last => pure (inner ++ last))
      (theEnd >>= fun _ => pure value) := by
  have hend : Mirrors (fun pairs _ => ∃ last, pairs = [last] ∧ last.goal = .endOfInput)
      Rules.theEnd theEnd := (Mirrors.refl _).token fun _ _ _ _ => ⟨_, rfl, rfl⟩
  refine hend.bind fun pairs _ hlast => .pure ?_
  obtain ⟨last, rfl, hgoal⟩ := hlast
  exact ⟨inner, last, rfl, hgoal, h⟩

theorem whole_template_builds :
    Mirrors (Holds (Each BuildsSegment)) Rules.wholeTemplate wholeTemplate := by
  refine Mirrors.pair (T := Ended (Each BuildsSegment)) ?_ fun _ _ _ _ h _ _ => ⟨_, rfl, h⟩
  exact segment_builds.many.bind fun parts segments hparts => the_end_builds ⟨parts, rfl, hparts⟩

theorem whole_expression_builds :
    Mirrors (Holds Builds) Rules.wholeExpression wholeExpression := by
  refine Mirrors.pair (T := Ended Builds) ?_ fun _ _ _ _ h _ _ => ⟨_, rfl, h⟩
  exact .skip _ <| expression_builds.bind fun inner phrase hphrase => .skip _ <|
    the_end_builds hphrase

theorem whole_literal_builds : Mirrors (Holds Builds) Rules.wholeLiteral wholeLiteral := by
  refine Mirrors.pair (T := Ended Builds) ?_ fun _ _ _ _ h _ _ => ⟨_, rfl, h⟩
  exact scalar_builds.bind fun inner phrase hphrase => the_end_builds hphrase

end TextTemplate.Grammar
