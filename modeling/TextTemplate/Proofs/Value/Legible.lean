import TextTemplate.Engine.Basic
import TextTemplate.Proofs.Grammar.Items

/-!
# Rendered values as expressions

Truth values, integers, ranges, strings without control characters and lists of these are legible:
`Value.repr` writes them in the language of expressions, and as an expression the text has the value
that it was written for (`Engine.evaluate_expression_repr`). Only the limit on nesting can get in
the way, since every list takes a level and the bounds of a range stand one level below it.
-/

namespace TextTemplate

open TextTemplate.Grammar TextTemplate.Grammar.Parser TextTemplate.Number

/-! ## Legible values -/

/-- Quoted text has the character as itself, or as a backslash and one of five characters. -/
def Text.IsShown (c : Char) : Prop :=
  quotedChar c ∈ [[c], ['\\', 'n'], ['\\', 't'], ['\\', 'r'], ['\\', '"'], ['\\', '\\']]

instance : DecidablePred Text.IsShown :=
  fun _ => inferInstanceAs (Decidable (_ ∈ _))

namespace Value

/-- The values whose text within another value is an expression for them. -/
inductive Legible : Value → Prop where
  | bool (value : Bool) : Legible (.bool value)
  | int (value : Int64) : Legible (.int value)
  | range {value : IntRange} (hstep : 1 ≤ value.step) : Legible (.range value)
  | str {text : String} (htext : ∀ c ∈ text.toList, Text.IsShown c) : Legible (.str text)
  | list {items : List Value} (hitems : ∀ item ∈ items, Legible item) : Legible (.list items)

mutual
/-- The tree of literals, ranges and lists that has the value, if the value is legible. -/
def toExpr : Value → Expr
  | bool value => .literal (.bool value)
  | int value => .literal (.int value)
  | str text => .literal (.str text)
  | range value =>
    .range (.literal (.int value.start)) (.literal (.int value.stop))
      (if value.step = 1 then none else some (.literal (.int value.step)))
  | list items => .list (toExprs items)
  | value => .text value.repr

/-- The trees of literals, ranges and lists that have the values. -/
def toExprs : List Value → List Expr
  | [] => []
  | item :: items => toExpr item :: toExprs items
end

theorem to_exprs_eq_map (items : List Value) : toExprs items = items.map toExpr := by
  induction items with
  | nil => rfl
  | cons item items ih => rw [toExprs, ih, List.map_cons]

mutual
/-- The levels of nesting that the value takes as an expression. What is in a list stands one level
below it, and so do the bounds of a range. -/
def levels : Value → Nat
  | range _ => 2
  | list items => levelsOfAll items + 1
  | _ => 1

/-- The levels of nesting that the values take next to each other. -/
def levelsOfAll : List Value → Nat
  | [] => 0
  | item :: items => max (levels item) (levelsOfAll items)
end

mutual
/-- The greatest number of lists within each other, the value itself among them. -/
def nesting : Value → Nat
  | list items => nestingOfAll items + 1
  | _ => 0

/-- The greatest number of lists within each other in one of the values. -/
def nestingOfAll : List Value → Nat
  | [] => 0
  | item :: items => max (nesting item) (nestingOfAll items)
end

mutual
/-- A value takes a level for each list within another one, and two more at most, for a range and
its bounds. -/
theorem levels_bounds : (value : Value) →
    value.nesting ≤ value.levels ∧ value.levels ≤ value.nesting + 2
  | .list items => by
      obtain ⟨hlower, hupper⟩ := levels_of_all_bounds items
      rw [nesting, levels]
      omega
  | .null | .bool _ | .int _ | .float _ | .decimal _ | .str _ | .dateTime _ | .range _ | .map _
  | .closure _ => by simp [nesting, levels]

theorem levels_of_all_bounds : (items : List Value) →
    nestingOfAll items ≤ levelsOfAll items ∧ levelsOfAll items ≤ nestingOfAll items + 2
  | [] => by simp [nestingOfAll, levelsOfAll]
  | item :: items => by
      obtain ⟨hlower, hupper⟩ := levels_bounds item
      obtain ⟨hlowers, huppers⟩ := levels_of_all_bounds items
      rw [nestingOfAll, levelsOfAll]
      omega
end

end Value

/-! ## The text of a legible value -/

/-- What quoted text has for a character that is shown stands for it in a string. -/
theorem Text.IsShown.stands_for {c : Char} (h : IsShown c) : StandsFor (quotedChar c) c := by
  by_cases hescaped : c ∈ ['"', '\\', '\n', '\t', '\r']
  · simp only [List.mem_cons, List.not_mem_nil, or_false] at hescaped
    rcases hescaped with rfl | rfl | rfl | rfl | rfl
    · exact .escape '"'
    · exact .escape '\\'
    · exact .escape 'n'
    · exact .escape 't'
    · exact .escape 'r'
  · simp only [List.mem_cons, List.not_mem_nil, or_false, not_or] at hescaped
    obtain ⟨hquote, hslash, hnewline, htab, hreturn⟩ := hescaped
    rw [IsShown] at h
    rw [quotedChar, if_neg hquote, if_neg hslash, if_neg hnewline, if_neg htab,
      if_neg hreturn] at h ⊢
    by_cases hnull : c.toNat = 0
    · simp [hnull] at h
    · by_cases hhidden : isHidden c
      · simp [hnull, hhidden] at h
      · rw [if_neg hnull, if_neg hhidden]
        exact .plain hquote hslash

namespace Value

@[simp] theorem to_list_repr_int (value : Int64) :
    (repr (.int value)).toList = integerDigits value.toInt := by
  rw [repr, integerText, String.toList_ofList]

@[simp] theorem to_list_repr_bool (value : Bool) :
    (repr (.bool value)).toList = truthWord value := by
  cases value <;> rfl

@[simp] theorem to_list_repr_str (text : String) :
    (repr (.str text)).toList = '"' :: text.toList.flatMap Text.quotedChar ++ ['"'] := by
  rw [repr, Text.quoted, String.toList_ofList, List.cons_append]

/-- The slashes of a range with its step, unless that is one. -/
def stepDigits (step : Int64) : List Char :=
  if step = 1 then [] else '/' :: '/' :: integerDigits step.toInt

@[simp] theorem to_list_repr_range (value : IntRange) :
    (repr (.range value)).toList = integerDigits value.start.toInt ++
      '.' :: '.' :: (integerDigits value.stop.toInt ++ stepDigits value.step) := by
  rw [repr, IntRange.text, stepDigits]
  split <;> simp [integerText]

/-- The texts of further items, each behind a comma. -/
theorem to_list_items_text (items : List Value) :
    (itemsText true items).toList =
      (items.map fun item => item.repr.toList).flatMap (behindComma [] [' ']) := by
  induction items with
  | nil => rfl
  | cons item items ih => simp [itemsText, behindComma, ih]

@[simp] theorem to_list_repr_list (items : List Value) :
    (repr (.list items)).toList =
      enclosed [] '[' (commaSeparated [] [' '] (items.map fun item => item.repr.toList)) ']' := by
  cases items with
  | nil => rfl
  | cons item items => simp [repr, itemsText, to_list_items_text, enclosed, commaSeparated]

/-! ## Reading -/

variable {inner : Parser Phrase}

/-- No text of a legible value begins with a blank. -/
theorem Legible.begins {value : Value} (h : value.Legible) (rest : List Char) :
    Stops isBlank (value.repr.toList ++ rest) := by
  cases h with
  | bool value =>
      rw [to_list_repr_bool]
      exact .of_name (is_name_truth_word value) (fun _ => is_blank_eq_false rfl) rest
  | int value =>
      rw [to_list_repr_int]
      exact .of_integer_digits_blank _ rest
  | range hstep =>
      rw [to_list_repr_range, List.append_assoc]
      exact .of_integer_digits_blank _ _
  | str htext =>
      rw [to_list_repr_str]
      exact .cons rfl _
  | list hitems =>
      rw [to_list_repr_list]
      exact .cons rfl _

/-- The step of a range is read, or left out where it is one. -/
theorem yields_step_digits (step : Int64) {rest tail : List Char} (hrest : Ends rest tail) :
    ∃ after, YieldsStep inner ((stepDigits step ++ rest).dropWhile isBlank)
      (if step = 1 then none else some (.literal (.int step))) after ∧
        after.dropWhile isBlank = tail := by
  rw [stepDigits]
  split
  · exact ⟨tail, yields_no_step hrest, hrest.tail_blanks⟩
  · refine ⟨rest, yields_step ?_, hrest.blanks⟩
    change (bound _ _).Yields ((integerDigits step.toInt ++ rest).dropWhile isBlank) _ rest
    rw [(Stops.of_integer_digits_blank step.toInt rest).drop_while]
    exact yields_bound_int step (hrest.rest rfl rfl)

/-- A range is read from its text. -/
theorem yields_primary_repr_range (value : IntRange) {rest tail : List Char}
    (hrest : Ends rest tail) :
    ∃ after, (primary inner).Yields ((repr (.range value)).toList ++ rest) (toExpr (.range value))
      after ∧ after.dropWhile isBlank = tail := by
  obtain ⟨after, hstep, hafter⟩ : ∃ after, YieldsStep inner _ _ after ∧ _ :=
    yields_step_digits value.step hrest
  let later := stepDigits value.step ++ rest
  let behind := integerDigits value.stop.toInt ++ later
  have hlater : Stops Char.isDigit later := by
    unfold later stepDigits
    split
    · exact hrest.rest rfl rfl
    · exact .cons rfl _
  have hbehind : behind.dropWhile isBlank = behind :=
    (Stops.of_integer_digits_blank value.stop.toInt later).drop_while
  have htext : (repr (.range value)).toList ++ rest =
      integerDigits value.start.toInt ++ ('.' :: '.' :: behind) := by
    simp [behind, later]
  refine ⟨after, ?_, hafter⟩
  rw [htext, toExpr]
  refine yields_primary_range (yields_bound_int value.start (.cons rfl _)) rfl ?_ hstep
  rw [hbehind]
  exact yields_bound_int value.stop hlater

/-- What `inner` reads one level below is read by an expression. -/
theorem Legible.understands_over (hnone : ∀ cs, inner.reads? (']' :: cs) = none) {value : Value}
    (h : value.Legible)
    (hinner : ∀ item : Value, item.Legible →
      item.repr.toList.length < value.repr.toList.length →
        Understands inner item.repr.toList item.toExpr) :
    Understands (expressionOver inner) value.repr.toList value.toExpr := by
  refine .of_primary h.begins fun rest tail hrest => ?_
  cases h with
  | bool value =>
      rw [to_list_repr_bool]
      exact ⟨rest, yields_primary_bool value (hrest.rest rfl rfl) (hrest.rest rfl rfl) hrest.dots,
        hrest.blanks⟩
  | int value =>
      rw [to_list_repr_int]
      exact ⟨rest, yields_primary_int value (hrest.rest rfl rfl) hrest.dots, hrest.blanks⟩
  | range hstep => exact yields_primary_repr_range _ hrest
  | @str text htext =>
      have hstring : (primary inner).Yields _ _ rest :=
        yields_primary_string (fun c hc => (htext c hc).stands_for) rest
      rw [String.ofList_toList] at hstring
      refine ⟨rest, ?_, hrest.blanks⟩
      rw [to_list_repr_str, List.append_assoc]
      exact hstring
  | @list items hitems =>
      have hunderstood : List.Forall₂ (Understands inner)
          (items.map fun item => item.repr.toList) (toExprs items) := by
        rw [to_exprs_eq_map, List.forall₂_map_left_iff, List.forall₂_map_right_iff,
          List.forall₂_same]
        intro item hitem
        have hle : item.repr.toList.length ≤
            (commaSeparated [] [' '] (items.map fun item => item.repr.toList)).length :=
          length_le_comma_separated [] [' '] (List.mem_map_of_mem hitem)
        refine hinner item (hitems item hitem) ?_
        rw [to_list_repr_list, length_enclosed]
        omega
      have hnothing : ∀ c ∈ [], isBlank c := List.forall_mem_nil _
      have hspace : ∀ c ∈ [' '], isBlank c := List.forall_mem_singleton.mpr rfl
      have hlist := yields_list hnothing hnothing hspace hunderstood (hnone rest)
      refine ⟨rest, ?_, hrest.blanks⟩
      rw [to_list_repr_list]
      exact yields_primary_list hlist

/-- With more levels of nesting than characters, the text of every legible value is read. -/
theorem Legible.understands {depth : Nat} {value : Value} (h : value.Legible)
    (hdepth : value.repr.toList.length < depth) :
    Understands (expressionWithin depth) value.repr.toList value.toExpr := by
  -- The brackets around items make them shorter than their list, as each level of nesting needs.
  induction depth generalizing value with
  | zero => exact absurd hdepth (Nat.not_lt_zero _)
  | succ depth ih =>
      have hnone : ∀ cs, (expressionWithin depth).reads? (']' :: cs) = none :=
        reads?_expression_within_eq_none (by decide) depth
      exact h.understands_over hnone fun item hitem hless => ih hitem (by omega)

/-- The text of a legible value is parsed to the tree of the value. -/
theorem Legible.parse_repr {value : Value} (h : value.Legible) :
    Expr.parse value.repr = .ok value.toExpr := by
  have hdepth : value.repr.toList.length < byteCount value.repr.toList + 1 :=
    Nat.lt_succ_of_le (length_le_byte_count _)
  have hyields := (h.understands hdepth).yields .nil
  have hblank := (h.begins []).drop_while
  rw [List.append_nil] at hyields hblank
  have hparse := parse_eq_ok hblank hyields
  rwa [String.ofList_toList] at hparse

end Value

/-! ## Evaluation -/

namespace Scope

variable {scope : Scope} {calls : Calls} {α β : Type} {value : α} {depth levels more : Nat}

/-- The value, unless it takes more levels of nesting than the scope allows. -/
def granting (scope : Scope) (levels : Nat) (value : α) : Except Halt α :=
  if levels ≤ scope.maxDepth then .ok value
  else .error (.fault (.stackOverflow scope.maxDepth scope.maxDepth))

theorem granting_eq_ok (h : levels ≤ scope.maxDepth) : scope.granting levels value = .ok value :=
  if_pos h

/-- A value that is made of another one takes the levels of both. -/
theorem granting_bind {next : α → Except Halt β} {result : β}
    (h : next value = scope.granting more result) :
    (scope.granting levels value >>= next) = scope.granting (max levels more) result := by
  by_cases hlevels : levels ≤ scope.maxDepth
  · rw [granting_eq_ok hlevels]
    change next value = _
    rw [h]
    simp only [granting, Nat.max_le, hlevels, true_and]
  · simp only [granting, Nat.max_le, hlevels, false_and, if_false]
    rfl

/-- What is computed from a value takes the levels of the value. -/
theorem granting_then {next : α → Except Halt β} {result : β} (h : next value = .ok result) :
    (scope.granting levels value >>= next) = scope.granting levels result := by
  have hresult : next value = scope.granting 0 result := by
    rw [h, granting_eq_ok (Nat.zero_le _)]
  rw [granting_bind hresult, Nat.max_zero]

/-- An integer is a bound. -/
theorem granting_bound {bound : Int64} {next : Int64 → Except Halt β} {result : β}
    (h : next bound = scope.granting more result) :
    (scope.granting levels (Literal.int bound).value >>= fun value => boundOf value >>= next) =
      scope.granting (max levels more) result :=
  granting_bind h

/-- The limit is reached at a node, or what the node does decides. -/
theorem granting_of_node (hdepth : depth ≤ scope.maxDepth) (hlevels : depth < levels)
    {outcome : Except Halt α}
    (h : depth + 1 ≤ scope.maxDepth → outcome = scope.granting levels value) :
    (if scope.maxDepth ≤ depth then .error (.fault (.stackOverflow depth scope.maxDepth))
      else outcome) = scope.granting levels value := by
  split
  · have hlimit : depth = scope.maxDepth := by omega
    rw [granting, if_neg (by omega), hlimit]
  · exact h (by omega)

/-- A literal takes one level. -/
theorem eval_at_literal (hdepth : depth ≤ scope.maxDepth) (origin : Origin) (literal : Literal) :
    scope.evalAt calls depth origin (.literal literal) =
      scope.granting (depth + 1) literal.value := by
  rw [evalAt]
  exact granting_of_node hdepth (Nat.lt_succ_self depth) fun h => (granting_eq_ok h).symm

/-- A step that is left out takes no level. -/
theorem eval_step_at_literal (hdepth : depth ≤ scope.maxDepth) (origin : Origin) (step : Int64) :
    scope.evalStepAt calls depth origin
      (if step = 1 then none else some (.literal (.int step))) =
        scope.granting (if step = 1 then depth else depth + 1) step := by
  split
  · next hone =>
      rw [evalStepAt, granting_eq_ok hdepth, hone]
  · rw [evalStepAt, eval_at_literal hdepth]
    exact granting_then rfl

/-- The bounds of a range take a level below it. -/
theorem eval_at_range {range : IntRange} (hstep : 1 ≤ range.step) (hdepth : depth ≤ scope.maxDepth)
    (origin : Origin) :
    scope.evalAt calls depth origin (Value.toExpr (.range range)) =
      scope.granting (depth + 2) (.range range) := by
  have hrange : rangeOf range.start range.stop range.step = .ok (.range range) := by
    have hpos : ¬ range.step ≤ 0 := by
      rw [Int64.not_le]
      exact Int64.lt_of_lt_of_le (by decide) hstep
    rw [rangeOf, if_neg hpos]
  rw [Value.toExpr, evalAt]
  refine granting_of_node hdepth (by omega) fun hbounds => ?_
  rw [eval_at_literal hbounds, eval_at_literal hbounds, eval_step_at_literal hbounds]
  refine (granting_bound (granting_bound (granting_then hrange))).trans ?_
  have hlevels : (if range.step = 1 then depth + 1 else depth + 1 + 1) ≤ depth + 2 := by
    split <;> omega
  rw [Nat.max_eq_left hlevels, Nat.max_self]

/-- The trees of values have the values, if each of them does. -/
theorem eval_all_at_to_exprs {items : List Value}
    (h : ∀ item ∈ items, ∀ origin, scope.evalAt calls depth origin item.toExpr =
      scope.granting (depth + item.levels) item) (hdepth : depth ≤ scope.maxDepth)
    (origin : Origin) (index : Nat) :
    scope.evalAllAt calls depth origin index (Value.toExprs items) =
      scope.granting (depth + Value.levelsOfAll items) items := by
  induction items generalizing index with
  | nil => exact (granting_eq_ok hdepth).symm
  | cons item items ih =>
      obtain ⟨hitem, hitems⟩ := List.forall_mem_cons.mp h
      rw [Value.toExprs, evalAllAt, hitem, ih hitems, Value.levelsOfAll, ← Nat.add_max_add_left]
      exact granting_bind (granting_then rfl)

/-- The tree of a legible value has the value, unless that takes more levels than are left. -/
theorem eval_at_to_expr {value : Value} (h : value.Legible) (hdepth : depth ≤ scope.maxDepth)
    (origin : Origin) :
    scope.evalAt calls depth origin value.toExpr =
      scope.granting (depth + value.levels) value := by
  induction h generalizing depth origin with
  | bool value => exact eval_at_literal hdepth origin (.bool value)
  | int value => exact eval_at_literal hdepth origin (.int value)
  | str htext => exact eval_at_literal hdepth origin (.str _)
  | range hstep => exact eval_at_range hstep hdepth origin
  | @list items hitems ih =>
      rw [Value.toExpr, evalAt, Value.levels]
      refine granting_of_node hdepth (by omega) fun hroom => ?_
      rw [eval_all_at_to_exprs (fun item hitem => ih item hitem hroom) hroom, ← Nat.add_assoc,
        Nat.add_right_comm]
      exact granting_then rfl

end Scope

/-- Legible values with the same text are the same value. -/
theorem Value.Legible.repr_inj {first second : Value} (hfirst : first.Legible)
    (hsecond : second.Legible) (htext : first.repr = second.repr) : first = second := by
  let scope : Scope := ⟨.empty, .standard, max first.levels second.levels⟩
  have heval : ∀ {value : Value}, value.Legible → value.levels ≤ scope.maxDepth →
      scope.eval (fun _ => .standard) 0 [] value.toExpr = .ok value := by
    intro value hvalue hlevels
    rw [Scope.eval, Scope.eval_at_to_expr hvalue (Nat.zero_le _), Nat.zero_add,
      Scope.granting_eq_ok hlevels]
  have htree : first.toExpr = second.toExpr := by
    have hparse := hfirst.parse_repr
    rw [htext, hsecond.parse_repr] at hparse
    exact (Except.ok.inj hparse).symm
  have hvalue := heval hfirst (Nat.le_max_left _ _)
  rw [htree, heval hsecond (Nat.le_max_right _ _)] at hvalue
  exact (Except.ok.inj hvalue).symm

namespace Engine

/-- As an expression the text of a legible value is evaluated like the tree of the value. -/
theorem evaluate_expression_of_legible (engine : Engine) (origin : Origin) {value : Value}
    (h : value.Legible) :
    engine.evaluateExpression origin value.repr .empty =
      (Scope.granting ⟨.empty, engine.resolvers.default, engine.options.maxDepth⟩ value.levels
        value).mapError .ofHalt := by
  let scope : Scope := ⟨.empty, engine.resolvers.default, engine.options.maxDepth⟩
  have hselect : engine.resolvers.select .empty = .ok engine.resolvers.default := rfl
  have heval : scope.eval engine.host callBudget origin value.toExpr =
      scope.granting value.levels value := by
    rw [Scope.eval, Scope.eval_at_to_expr h (Nat.zero_le _), Nat.zero_add]
  rw [evaluateExpression, h.parse_repr, ← heval]
  change engine.evalExpr origin value.toExpr .empty = _
  rw [evalExpr, Resolvers.eval, hselect]
  rfl

/-- As an expression without variables the text of a legible value has that value, if the engine
allows for as many levels of nesting as the value takes. Otherwise the limit is reached. -/
theorem evaluate_expression_repr (engine : Engine) (origin : Origin) {value : Value}
    (h : value.Legible) :
    engine.evaluateExpression origin value.repr .empty =
      if value.levels ≤ engine.options.maxDepth then .ok value
      else .error (.resourceExceeded
        (.stackOverflow engine.options.maxDepth engine.options.maxDepth)) := by
  rw [engine.evaluate_expression_of_legible origin h, Scope.granting]
  split <;> rfl

/-- Two levels more than there are lists within each other are always enough. -/
theorem evaluate_expression_of_nesting (engine : Engine) (origin : Origin) {value : Value}
    (h : value.Legible) (hroom : value.nesting + 2 ≤ engine.options.maxDepth) :
    engine.evaluateExpression origin value.repr .empty = .ok value := by
  have hlevels : value.levels ≤ engine.options.maxDepth :=
    Nat.le_trans value.levels_bounds.2 hroom
  rw [engine.evaluate_expression_of_legible origin h, Scope.granting_eq_ok hlevels]
  rfl

/-- The extreme integers as the bounds of a range that runs downwards, and a quote, a backslash and
a line break in a string. -/
theorem evaluate_expression_repr_of_list :
    let value : Value := .list [.range ⟨9223372036854775807, -9223372036854775808, 3⟩,
      .str "\"\\\n", .list [.bool true, .list [], .int (-1)]]
    let engine : Engine := ⟨fun _ => .standard, ⟨.standard, []⟩, {}⟩
    value.repr = "[9223372036854775807..-9223372036854775808//3, \"\\\"\\\\\\n\", [true, [], -1]]" ∧
      value.Legible ∧ engine.evaluateExpression [] value.repr .empty = .ok value := by
  intro value engine
  have htext : ∀ c ∈ ['"', '\\', '\n'], Text.IsShown c := by
    simp only [List.forall_mem_cons, List.not_mem_nil, false_implies, implies_true, and_true]
    decide
  have hlegible : value.Legible := by
    refine .list ?_
    simp only [List.forall_mem_cons, List.not_mem_nil, false_implies, implies_true, and_true]
    refine ⟨.range (by decide), .str htext, .list ?_⟩
    simp only [List.forall_mem_cons, List.not_mem_nil, false_implies, implies_true, and_true]
    exact ⟨.bool true, .list (List.forall_mem_nil _), .int (-1)⟩
  refine ⟨by decide +kernel, hlegible, ?_⟩
  rw [engine.evaluate_expression_repr [] hlegible, if_pos (by decide)]

/-- A range within a list is cut off under the limit two, which an integer in its place keeps to,
since the bounds take a level of their own. -/
theorem cuts_off_range_in_list :
    let value : Value := .list [.range ⟨1, 2, 1⟩]
    let engine : Engine := ⟨fun _ => .standard, ⟨.standard, []⟩, { maxDepth := 2 }⟩
    value.repr = "[1..2]" ∧ value.Legible ∧ value.nesting < engine.options.maxDepth ∧
      engine.evaluateExpression [] value.repr .empty =
        .error (.resourceExceeded (.stackOverflow 2 2)) := by
  intro value engine
  have hlegible : value.Legible :=
    .list (List.forall_mem_singleton.mpr (.range (by decide)))
  refine ⟨by decide +kernel, hlegible, by decide, ?_⟩
  rw [engine.evaluate_expression_of_legible [] hlegible]
  rfl

end Engine

end TextTemplate
