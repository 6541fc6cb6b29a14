import TextTemplate.Proofs.Eval.Outlasts

/-!
# Deeper evaluations

A tree that is evaluated deeper than elsewhere comes to the same value or the same error there,
unless the limit on nesting is reached (`Scope.eval_at_deeper`). The closures that it calls do not
find out, since the depth is counted afresh for each of them.
-/

namespace TextTemplate

/-- The outcome is an overflow: the limit on nesting was reached. -/
def Overflows {α : Type} (outcome : Except Halt α) : Prop :=
  ∃ halt, outcome = .error halt ∧ halt.IsOverflow

theorem not_overflows_ok {α : Type} (value : α) : ¬ Overflows (.ok value) := by
  rintro ⟨halt, h, _⟩
  cases h

theorem overflows_error_iff {α : Type} {halt : Halt} :
    Overflows (.error halt : Except Halt α) ↔ halt.IsOverflow := by
  constructor
  · rintro ⟨other, h, hoverflow⟩
    cases h
    exact hoverflow
  · exact fun hoverflow => ⟨halt, rfl, hoverflow⟩

/-- What is computed from an overflow is one. -/
theorem Overflows.map {α β : Type} {outcome : Except Halt α} (h : Overflows outcome) (f : α → β) :
    Overflows (outcome.map f) := by
  obtain ⟨halt, rfl, hhalt⟩ := h
  exact ⟨halt, rfl, hhalt⟩

/-- The first outcome is the second one, unless it is an overflow. -/
def OverflowsOr {α : Type} (first second : Except Halt α) : Prop :=
  Overflows first ∨ first = second

namespace OverflowsOr

variable {α β : Type} {first second : Except Halt α}

theorem refl (outcome : Except Halt α) : OverflowsOr outcome outcome :=
  .inr rfl

/-- What is computed from the outcomes is the same as well, or it is an overflow. -/
theorem bind (h : OverflowsOr first second) {next later : α → Except Halt β}
    (hnext : ∀ value, OverflowsOr (next value) (later value)) :
    OverflowsOr (first >>= next) (second >>= later) := by
  obtain ⟨halt, rfl, hhalt⟩ | rfl := h
  · exact .inl ⟨halt, rfl, hhalt⟩
  · cases first with
    | ok value => exact hnext value
    | error halt => exact .refl _

theorem map (h : OverflowsOr first second) (f : α → β) :
    OverflowsOr (first.map f) (second.map f) := by
  obtain hoverflow | rfl := h
  · exact .inl (hoverflow.map f)
  · exact .refl _

end OverflowsOr

namespace Scope

variable {scope : Scope} {calls : Calls}

/-- Where the limit is reached, the tree is not looked at. -/
theorem overflows_eval_at {depth : Nat} (h : scope.maxDepth ≤ depth) (origin : Origin)
    (expr : Expr) : Overflows (scope.evalAt calls depth origin expr) := by
  have hoverflow : Halt.IsOverflow (.fault (.stackOverflow depth scope.maxDepth)) := rfl
  rw [evalAt.eq_def, if_pos h]
  exact overflows_error_iff.mpr hoverflow

mutual
/-- A tree that is evaluated deeper has the same value, unless the limit is reached. -/
theorem eval_at_deeper {depth deeper : Nat} (hle : depth ≤ deeper) (origin : Origin)
    (expr : Expr) :
    OverflowsOr (scope.evalAt calls deeper origin expr) (scope.evalAt calls depth origin expr) := by
  by_cases hdeeper : scope.maxDepth ≤ deeper
  · exact .inl (overflows_eval_at hdeeper origin expr)
  · have hdepth : ¬ scope.maxDepth ≤ depth := fun hmax => hdeeper (hmax.trans hle)
    have hnext : depth + 1 ≤ deeper + 1 := Nat.succ_le_succ hle
    cases expr with
    | text | literal | atom | lambda | capture =>
        simp only [evalAt, hdepth, hdeeper, if_false]
        exact .refl _
    | property subject key =>
        by_cases hatom : ∃ name, subject = .atom name
        · obtain ⟨name, rfl⟩ := hatom
          simp only [evalAt, hdepth, hdeeper, if_false]
          exact .refl _
        · rw [eval_at_property hdepth fun name heq => hatom ⟨name, heq⟩,
            eval_at_property hdeeper fun name heq => hatom ⟨name, heq⟩]
          exact (eval_at_deeper hnext _ subject).bind fun value => .refl _
    | access subject index =>
        simp only [evalAt, hdepth, hdeeper, if_false]
        exact (eval_at_deeper hnext _ subject).bind fun value =>
          (eval_at_deeper hnext _ index).bind fun place => .refl _
    | function name args =>
        simp only [evalAt, hdepth, hdeeper, if_false]
        split
        · exact .refl _
        · exact (eval_all_at_deeper hnext origin 0 args).bind fun values => .refl _
    | range start stop step =>
        simp only [evalAt, hdepth, hdeeper, if_false]
        refine (eval_at_deeper hnext _ start).bind fun value => ?_
        refine (OverflowsOr.refl (boundOf value)).bind fun first => ?_
        refine (eval_at_deeper hnext _ stop).bind fun value => ?_
        refine (OverflowsOr.refl (boundOf value)).bind fun last => ?_
        exact (eval_step_at_deeper hnext _ step).bind fun stride => .refl _
    | list items =>
        simp only [evalAt, hdepth, hdeeper, if_false]
        exact (eval_all_at_deeper hnext origin 0 items).bind fun values => .refl _
    | binary op left right =>
        simp only [evalAt, hdepth, hdeeper, if_false]
        exact (eval_at_deeper hnext _ left).bind fun first =>
          (eval_at_deeper hnext _ right).bind fun second => .refl _

/-- Trees that are evaluated deeper, in their order, have the same values, unless the limit is
reached. -/
theorem eval_all_at_deeper {depth deeper : Nat} (hle : depth ≤ deeper) (origin : Origin)
    (index : Nat) (exprs : List Expr) :
    OverflowsOr (scope.evalAllAt calls deeper origin index exprs)
      (scope.evalAllAt calls depth origin index exprs) := by
  cases exprs with
  | nil => exact .refl _
  | cons expr exprs =>
      rw [evalAllAt, evalAllAt]
      exact (eval_at_deeper hle _ expr).bind fun value =>
        (eval_all_at_deeper hle origin (index + 1) exprs).bind fun values => .refl _

/-- The step of a range that is evaluated deeper is the same, unless the limit is reached. -/
theorem eval_step_at_deeper {depth deeper : Nat} (hle : depth ≤ deeper) (origin : Origin)
    (step : Option Expr) :
    OverflowsOr (scope.evalStepAt calls deeper origin step)
      (scope.evalStepAt calls depth origin step) := by
  cases step with
  | none => exact .refl _
  | some expr =>
      rw [evalStepAt, evalStepAt]
      exact (eval_at_deeper hle origin expr).bind fun value => .refl _
end

end Scope

end TextTemplate
