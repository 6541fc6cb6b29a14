import TextTemplate.Proofs.Eval.Deeper
import TextTemplate.Proofs.Eval.Relocated
import TextTemplate.Proofs.Expr.Grouping

/-!
# Joining texts

The texts of trees can be joined in three ways: as the segments of a template, by operators between
them, and as the arguments of `concatenate`. The three evaluate the trees in different places and at
different depths, and they turn values into texts at different times. They agree all the same
(`Scope.joinings_agree`), unless the limit on nesting is reached, which operators do sooner than
segments.
-/

namespace TextTemplate

/-! ## Maps that stand for values -/

theorem Context.lower_default_key : Text.lower defaultKey = defaultKey := by
  decide +kernel

/-- The value that entries stand for is looked up for its text. -/
theorem default_text_eq (entries : List (String × Value)) :
    Value.defaultText entries = (Keyed.get? Context.defaultKey entries).map Value.text := by
  induction entries with
  | nil => rfl
  | cons entry rest ih =>
      obtain ⟨key, value⟩ := entry
      by_cases hkey : key = Context.defaultKey
      · rw [Value.defaultText, Keyed.get?, if_pos hkey, if_pos hkey.symm]
        rfl
      · rw [Value.defaultText, Keyed.get?, if_neg hkey, if_neg (Ne.symm hkey), ih]

/-- The value that a map stands for has the text of the map. -/
theorem text_unwrapped (value : Value) : value.unwrapped.text = value.text := by
  cases value with
  | map context =>
      obtain ⟨entries⟩ := context
      rw [Value.unwrapped, Context.get?, Context.lower_default_key]
      cases hdefault : Keyed.get? Context.defaultKey entries with
      | none => rfl
      | some value =>
          have hshown : Value.defaultText entries = some value.text := by
            rw [default_text_eq, hdefault]
            rfl
          rw [Value.text, Value.contextText, hshown]
          rfl
  | _ => rfl

/-! ## Joined texts -/

/-- What joining the texts of trees comes to: to all the texts, one behind the other, or to why the
first tree without a text has none. -/
inductive Joins (textOf : Expr → Except Halt String) (exprs : List Expr) :
    Except Halt String → Prop where
  | texts {texts : List String}
      (h : List.Forall₂ (fun expr text => textOf expr = .ok text) exprs texts) :
      Joins textOf exprs (.ok (String.join texts))
  | halted {before after : List Expr} {expr : Expr} {halt : Halt}
      (heq : exprs = before ++ expr :: after)
      (hbefore : ∀ earlier ∈ before, ∃ text, textOf earlier = .ok text)
      (h : textOf expr = .error halt) :
      Joins textOf exprs (.error halt)

/-- The texts of the trees, joined in their order. -/
def joinedTexts (textOf : Expr → Except Halt String) (exprs : List Expr) : Except Halt String :=
  (exprs.mapM textOf).map String.join

section

variable {textOf : Expr → Except Halt String}

/-- Either all trees have texts, or there is a first one that has none. -/
theorem texts_or_first_halt (exprs : List Expr) :
    (∃ texts, exprs.mapM textOf = .ok texts ∧
      List.Forall₂ (fun expr text => textOf expr = .ok text) exprs texts) ∨
    ∃ before expr after halt, exprs = before ++ expr :: after ∧
      (∀ earlier ∈ before, ∃ text, textOf earlier = .ok text) ∧ textOf expr = .error halt ∧
      exprs.mapM textOf = .error halt := by
  induction exprs with
  | nil => exact .inl ⟨[], rfl, .nil⟩
  | cons expr exprs ih =>
      rw [List.mapM_cons]
      cases htext : textOf expr with
      | error halt => exact .inr ⟨[], expr, exprs, halt, rfl, nofun, htext, rfl⟩
      | ok text =>
          obtain ⟨texts, hmap, htexts⟩ | ⟨before, other, after, halt, rfl, hbefore, hhalt, hmap⟩ :=
            ih
          · rw [hmap]
            exact .inl ⟨text :: texts, rfl, .cons htext htexts⟩
          · have hearlier : ∀ earlier ∈ expr :: before, ∃ text, textOf earlier = .ok text :=
              List.forall_mem_cons.mpr ⟨⟨text, htext⟩, hbefore⟩
            rw [hmap]
            exact .inr ⟨expr :: before, other, after, halt, rfl, hearlier, hhalt, rfl⟩

theorem joins_joined_texts (exprs : List Expr) :
    Joins textOf exprs (joinedTexts textOf exprs) := by
  rw [joinedTexts]
  obtain ⟨texts, hmap, htexts⟩ | ⟨before, expr, after, halt, heq, hbefore, hhalt, hmap⟩ :=
    texts_or_first_halt exprs
  · rw [hmap]
    exact .texts htexts
  · rw [hmap]
    exact .halted heq hbefore hhalt

theorem joined_texts_singleton (expr : Expr) : joinedTexts textOf [expr] = textOf expr := by
  rw [joinedTexts, List.mapM_cons, List.mapM_nil]
  cases textOf expr with
  | ok text => simp [Except.map, bind, Except.bind, pure, Except.pure]
  | error halt => rfl

theorem joined_texts_append (exprs others : List Expr) :
    joinedTexts textOf (exprs ++ others) = (do
      let first ← joinedTexts textOf exprs
      let second ← joinedTexts textOf others
      pure (first ++ second)) := by
  rw [joinedTexts, joinedTexts, joinedTexts, List.mapM_append]
  cases exprs.mapM textOf with
  | error halt => rfl
  | ok texts =>
      cases others.mapM textOf with
      | error halt => rfl
      | ok more => exact congrArg Except.ok String.join_append

end

/-! ## The three ways -/

namespace Scope

/-- The text of the value of a tree. -/
def textOf (scope : Scope) (host : Host) (budget : Nat) (origin : Origin) (expr : Expr) :
    Except Halt String :=
  (scope.eval host budget origin expr).map Value.text

variable {host : Host} {scope : Scope} {origin : Origin} {budget : Nat}

/-- Calling `concatenate` joins the texts of its arguments. -/
theorem call_concatenate (hstandard : scope.resolver = .standard) (calls : Calls) (step : Origin)
    (values : List Value) :
    scope.call calls step "concatenate" values = .ok (.str (Value.joinedText values)) := by
  have hname : StandardFunction.ofName? "concatenate" = some .concatenate := by decide +kernel
  rw [call, hstandard, Resolver.library, Library.standard, hname]
  rfl

/-- The text of a concatenation is computed from the texts of its operands. -/
theorem text_of_concat {calls : Calls} {depth : Nat} {step : Origin} {left right : Expr}
    (hdepth : ¬ scope.maxDepth ≤ depth) :
    (scope.evalAt calls depth step (.binary .concat left right)).map Value.text = (do
      let first ← (scope.evalAt calls (depth + 1) (0 :: step) left).map Value.text
      let second ← (scope.evalAt calls (depth + 1) (1 :: step) right).map Value.text
      pure (first ++ second)) := by
  rw [evalAt, if_neg hdepth]
  cases scope.evalAt calls (depth + 1) (0 :: step) left with
  | error halt => rfl
  | ok value => cases scope.evalAt calls (depth + 1) (1 :: step) right <;> rfl

/-- The texts of arguments are those of the first and of the others. -/
theorem texts_of_cons {calls : Calls} {depth index : Nat} {expr : Expr} {exprs : List Expr} :
    (scope.evalAllAt calls depth origin index (expr :: exprs)).map (List.map Value.text) = (do
      let text ← (scope.evalAt calls depth (index :: origin) expr).map Value.text
      let texts ← (scope.evalAllAt calls depth origin (index + 1) exprs).map (List.map Value.text)
      pure (text :: texts)) := by
  rw [evalAllAt]
  cases scope.evalAt calls depth (index :: origin) expr with
  | error halt => rfl
  | ok value => cases scope.evalAllAt calls depth origin (index + 1) exprs <;> rfl

section

variable (hhost : ∀ name, (host name).IgnoresOrigins)
  (hscope : scope.context.Every fun closure => ¬ origin <:+ closure.origin)

include hhost hscope

/-- In another place a tree has the same text. -/
theorem text_relocated (path : Origin) (depth : Nat) (expr : Expr) :
    (scope.evalAt (.within host budget) depth (path ++ origin) expr).map Value.text =
      (scope.evalAt (.within host budget) depth origin expr).map Value.text := by
  rw [eval_relocated hhost hscope path budget depth expr]
  cases scope.evalAt (.within host budget) depth origin expr with
  | ok value => exact congrArg Except.ok (text_changed value)
  | error halt => rfl

/-- In another place a tree has the same text, unless the limit is reached there. -/
theorem text_relocated_deeper (path : Origin) (depth : Nat) (expr : Expr) :
    OverflowsOr ((scope.evalAt (.within host budget) depth (path ++ origin) expr).map Value.text)
      (scope.textOf host budget origin expr) := by
  rw [text_relocated hhost hscope]
  exact (eval_at_deeper (Nat.zero_le depth) origin expr).map Value.text

/-- The segments of a template have the texts that they have on their own. -/
theorem segment_texts (index : Nat) (exprs : List Expr) :
    (scope.evalSegments (.within host budget) origin index exprs).map (List.map Value.text) =
      exprs.mapM (scope.textOf host budget origin) := by
  induction exprs generalizing index with
  | nil => rfl
  | cons expr exprs ih =>
      have hfirst : (scope.evalAt (.within host budget) 0 (index :: origin) expr).map Value.text =
          scope.textOf host budget origin expr :=
        text_relocated hhost hscope [index] 0 expr
      rw [List.mapM_cons, ← ih (index + 1), ← hfirst, evalSegments]
      cases scope.evalAt (.within host budget) 0 (index :: origin) expr with
      | error halt => rfl
      | ok value =>
          cases scope.evalSegments (.within host budget) origin (index + 1) exprs with
          | error halt => rfl
          | ok values => exact congrArg (fun text => Except.ok (text :: _)) (text_unwrapped value)

/-- The text of a template joins the texts of its segments. -/
theorem template_text (exprs : List Expr) :
    (scope.evalTemplate host budget origin exprs).map Value.joinedText =
      joinedTexts (scope.textOf host budget origin) exprs := by
  rw [joinedTexts, ← segment_texts hhost hscope 0 exprs, evalTemplate]
  cases scope.evalSegments (.within host budget) origin 0 exprs <;> rfl

/-- The arguments of a function have the texts that they have on their own, unless the limit is
reached. -/
theorem argument_texts (depth index : Nat) (exprs : List Expr) :
    OverflowsOr
      ((scope.evalAllAt (.within host budget) depth origin index exprs).map (List.map Value.text))
      (exprs.mapM (scope.textOf host budget origin)) := by
  induction exprs generalizing index with
  | nil => exact .refl _
  | cons expr exprs ih =>
      rw [texts_of_cons, List.mapM_cons]
      exact (text_relocated_deeper hhost hscope [index] depth expr).bind fun text =>
        (ih (index + 1)).bind fun texts => .refl _

/-- The text of a call of `concatenate` joins the texts of the arguments, unless the limit is
reached. -/
theorem concatenate_text (hstandard : scope.resolver = .standard) (exprs : List Expr) :
    OverflowsOr (scope.textOf host budget origin (.function "concatenate" exprs))
      (joinedTexts (scope.textOf host budget origin) exprs) := by
  by_cases hdepth : scope.maxDepth ≤ 0
  · exact .inl ((overflows_eval_at hdepth _ _).map Value.text)
  · have htext : scope.textOf host budget origin (.function "concatenate" exprs) =
        ((scope.evalAllAt (.within host budget) 1 origin 0 exprs).map (List.map Value.text)).map
          String.join := by
      rw [textOf, eval, evalAt, if_neg hdepth]
      simp only [call_concatenate hstandard]
      cases scope.evalAllAt (.within host budget) 1 origin 0 exprs <;> rfl
    rw [htext, joinedTexts]
    exact (argument_texts hhost hscope 1 0 exprs).map String.join

/-- However the trees are grouped, the text of their concatenation joins their texts, unless the
limit is reached. -/
theorem concatenation_text {grouping : Grouping Expr} {first : Expr} {others : List Expr}
    (h : grouping.inOrder = (first, others.map (Prod.mk .concat))) (depth : Nat) (path : Origin) :
    OverflowsOr
      ((scope.evalAt (.within host budget) depth (path ++ origin) grouping.toExpr).map Value.text)
      (joinedTexts (scope.textOf host budget origin) (first :: others)) := by
  induction grouping generalizing first others depth path with
  | operand expr =>
      obtain ⟨rfl, hothers⟩ := Prod.mk.inj h
      obtain rfl := List.map_eq_nil_iff.mp hothers.symm
      rw [joined_texts_singleton]
      exact text_relocated_deeper hhost hscope path depth expr
  | group op left right ihLeft ihRight =>
      obtain ⟨rfl, hothers⟩ := Prod.mk.inj h
      obtain ⟨before, behind, rfl, hbefore, hbehind⟩ := List.map_eq_append_iff.mp hothers.symm
      obtain ⟨middle, after, rfl, hmiddle, hafter⟩ := List.map_eq_cons_iff.mp hbehind
      obtain ⟨rfl, rfl⟩ := Prod.mk.inj hmiddle
      by_cases hdepth : scope.maxDepth ≤ depth
      · exact .inl ((overflows_eval_at hdepth _ _).map Value.text)
      · -- Both operands are groupings of some of the trees, and they are evaluated further inside.
        have hfirst := ihLeft (Prod.ext rfl hbefore.symm) (depth + 1) (0 :: path)
        have hsecond := ihRight (Prod.ext rfl hafter.symm) (depth + 1) (1 :: path)
        have hexprs : left.inOrder.1 :: (before ++ right.inOrder.1 :: after) =
            (left.inOrder.1 :: before) ++ right.inOrder.1 :: after :=
          rfl
        rw [Grouping.toExpr, text_of_concat hdepth, hexprs, joined_texts_append]
        exact hfirst.bind fun first => hsecond.bind fun second => .refl _

end

/-- The three ways of joining texts agree, for every list of trees: the text of the template with
the trees as its segments, that of the trees with operators `&` between them, however these are
grouped, and that of `concatenate` with the trees as its arguments all come to the texts that the
trees have on their own, one behind the other; or, if a tree has no text, to why the first such tree
has none. This holds in every context that was there before, so that the evaluation has made none of
its closures, provided that the limit on nesting is reached neither for the operators nor for
`concatenate`; it is not reached for the template then either. -/
theorem joinings_agree (hhost : ∀ name, (host name).IgnoresOrigins)
    (hstandard : scope.resolver = .standard)
    (hscope : scope.context.Every fun closure => ¬ origin <:+ closure.origin) {grouping : Grouping Expr}
    {first : Expr} {others : List Expr}
    (hgrouping : grouping.inOrder = (first, others.map (Prod.mk .concat)))
    (hoperators : ¬ Overflows (scope.textOf host budget origin grouping.toExpr))
    (hcall : ¬ Overflows
      (scope.textOf host budget origin (.function "concatenate" (first :: others)))) :
    ∃ joined, Joins (scope.textOf host budget origin) (first :: others) joined ∧
      (scope.evalTemplate host budget origin (first :: others)).map Value.joinedText = joined ∧
      scope.textOf host budget origin grouping.toExpr = joined ∧
      scope.textOf host budget origin (.function "concatenate" (first :: others)) = joined := by
  refine ⟨joinedTexts (scope.textOf host budget origin) (first :: others), joins_joined_texts _,
    template_text hhost hscope _, ?_, ?_⟩
  · exact (concatenation_text hhost hscope hgrouping 0 []).resolve_left hoperators
  · exact (concatenate_text hhost hscope hstandard _).resolve_left hcall

/-- A map that stands for a map that stands for an integer, a variable that is missing, a list that
the host has wrapped values for, and a lambda have one text. Where two of three trees have none, the
first of the two is why. -/
theorem joinings_agree_of_wrapped :
    let host : Host := fun _ => .trial
    let wrapped : Value := .map ⟨[("__value__", .map ⟨[("__value__", .int 7)]⟩)]⟩
    let wrap : Closure := ⟨⟨[("wrapped", wrapped)]⟩, [.function "wrap" [.capture 1]],
      .hosted "trial", 10, [3]⟩
    let scope : Scope := ⟨⟨[("wrap", .closure wrap), ("wrapped", wrapped)]⟩, .standard, 10⟩
    let mapped : Expr := .function "map" [.list [.literal (.int 1)], .atom "wrap"]
    let lambda : Expr := .lambda [.capture 1]
    let difference : Expr := .binary .sub (.atom "wrapped") (.atom "wrap")
    let range : Expr := .range (.atom "wrap") (.literal (.int 1)) none
    (scope.evalTemplate host 5 [0] [.atom "wrapped", .atom "missing", mapped, lambda]).map
        Value.joinedText = .ok "7[1]<lambda>" ∧
      (scope.evalTemplate host 5 [0] [.atom "wrapped", difference, range]).map Value.joinedText =
        .error (.fault (.notANumber .sub "7")) := by
  intro host wrapped wrap scope mapped lambda difference range
  have hhost : ∀ name, (host name).IgnoresOrigins := fun _ => trial_ignores_origins
  have hwrapped : wrapped.Every fun closure => ¬ [0] <:+ closure.origin :=
    ⟨⟨trivial, trivial⟩, trivial⟩
  have hscope : scope.context.Every fun closure => ¬ [0] <:+ closure.origin :=
    ⟨⟨by decide, hwrapped, trivial⟩, hwrapped, trivial⟩
  constructor
  · let grouping : Grouping Expr := .group .concat (.operand (.atom "wrapped")) (.group .concat
      (.group .concat (.operand (.atom "missing")) (.operand mapped)) (.operand lambda))
    have hoperators : scope.textOf host 5 [0] grouping.toExpr = .ok "7[1]<lambda>" := by
      cbv
    have hcall : scope.textOf host 5 [0] (.function "concatenate"
        [.atom "wrapped", .atom "missing", mapped, lambda]) = .ok "7[1]<lambda>" := by
      cbv
    obtain ⟨joined, _, htemplate, hjoined, _⟩ := joinings_agree hhost rfl hscope rfl
      (hoperators ▸ not_overflows_ok _) (hcall ▸ not_overflows_ok _)
    rw [htemplate, ← hjoined, hoperators]
  · let grouping : Grouping Expr := .group .concat (.group .concat (.operand (.atom "wrapped"))
      (.operand difference)) (.operand range)
    have hhalt : ¬ Halt.IsOverflow (.fault (.notANumber .sub "7")) := Bool.false_ne_true
    have hoperators : scope.textOf host 5 [0] grouping.toExpr =
        .error (.fault (.notANumber .sub "7")) := by
      cbv
    have hcall : scope.textOf host 5 [0] (.function "concatenate"
        [.atom "wrapped", difference, range]) = .error (.fault (.notANumber .sub "7")) := by
      cbv
    obtain ⟨joined, _, htemplate, hjoined, _⟩ := joinings_agree hhost rfl hscope rfl
      (hoperators ▸ mt overflows_error_iff.mp hhalt) (hcall ▸ mt overflows_error_iff.mp hhalt)
    rw [htemplate, ← hjoined, hoperators]

end Scope

end TextTemplate
