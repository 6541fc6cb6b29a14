import TextTemplate.Proofs.Eval.Sequential

/-!
# How far an evaluation reaches

A walk looks at no more levels of a tree than the limit on nesting leaves to it: what is nested
deeper may be anything (`Scope.eval_at_up_to`). The body of a lambda does not count among these
levels, since a lambda is not evaluated where it stands.
-/

namespace TextTemplate

namespace Expr

mutual
/-- The tree down to the given number of levels; what is nested deeper is left out. The variable of a
property is no level of its own, and the bodies of lambdas are kept. -/
def upTo : Nat → Expr → Expr
  | 0, _ => .list []
  | levels + 1, .property subject key =>
    match subject with
    | .atom name => .property (.atom name) key
    | subject => .property (upTo levels subject) key
  | levels + 1, .access subject index => .access (upTo levels subject) (upTo levels index)
  | levels + 1, .function name args => .function name (allUpTo levels args)
  | levels + 1, .range start stop step =>
    .range (upTo levels start) (upTo levels stop) (stepUpTo levels step)
  | levels + 1, .list items => .list (allUpTo levels items)
  | levels + 1, .binary op left right => .binary op (upTo levels left) (upTo levels right)
  | _ + 1, expr => expr

/-- The trees down to the given number of levels. -/
def allUpTo (levels : Nat) : List Expr → List Expr
  | [] => []
  | expr :: exprs => upTo levels expr :: allUpTo levels exprs

/-- The step of a range down to the given number of levels. -/
def stepUpTo (levels : Nat) : Option Expr → Option Expr
  | none => none
  | some step => some (upTo levels step)
end

@[simp] theorem length_all_up_to (levels : Nat) (exprs : List Expr) :
    (allUpTo levels exprs).length = exprs.length := by
  induction exprs with
  | nil => rfl
  | cons expr exprs ih => rw [allUpTo, List.length_cons, ih, List.length_cons]

/-- No tree becomes a variable. -/
theorem up_to_ne_atom {levels : Nat} {expr : Expr} (h : ∀ name, expr ≠ .atom name) (name : String) :
    expr.upTo levels ≠ .atom name := by
  cases levels with
  | zero =>
      rw [upTo]
      exact nofun
  | succ levels =>
      cases expr with
      | atom other => exact absurd rfl (h other)
      | property subject key => cases subject <;> exact nofun
      | _ => exact nofun

theorem up_to_property {levels : Nat} {subject : Expr} {key : String}
    (h : ∀ name, subject ≠ .atom name) :
    (Expr.property subject key).upTo (levels + 1) = .property (subject.upTo levels) key := by
  cases subject with
  | atom name => exact absurd rfl (h name)
  | _ => rfl

end Expr

namespace Scope

variable {scope : Scope} {calls : Calls}

mutual
/-- The value of a tree only depends on as many levels as the limit leaves to its depth. -/
theorem eval_at_up_to (depth : Nat) (origin : Origin) (expr : Expr) :
    scope.evalAt calls depth origin (expr.upTo (scope.maxDepth - depth)) =
      scope.evalAt calls depth origin expr := by
  by_cases hdepth : scope.maxDepth ≤ depth
  · rw [evalAt.eq_def, if_pos hdepth, evalAt.eq_def, if_pos hdepth]
  · have hlevels : scope.maxDepth - depth = scope.maxDepth - (depth + 1) + 1 := by omega
    rw [hlevels]
    cases expr with
    | text | literal | atom | lambda | capture => rfl
    | property subject key =>
        by_cases hatom : ∃ name, subject = .atom name
        · obtain ⟨name, rfl⟩ := hatom
          rfl
        · have hsubject : ∀ name, subject ≠ .atom name := fun name heq => hatom ⟨name, heq⟩
          rw [Expr.up_to_property hsubject, eval_at_property hdepth (Expr.up_to_ne_atom hsubject),
            eval_at_property hdepth hsubject, eval_at_up_to (depth + 1)]
    | access subject index =>
        simp only [Expr.upTo, evalAt, hdepth, if_false, eval_at_up_to (depth + 1) _ subject,
          eval_at_up_to (depth + 1) _ index]
    | function name args =>
        simp only [Expr.upTo, evalAt, hdepth, if_false, Expr.length_all_up_to,
          eval_all_at_up_to (depth + 1) _ _ args]
    | range start stop step =>
        simp only [Expr.upTo, evalAt, hdepth, if_false, eval_at_up_to (depth + 1) _ start,
          eval_at_up_to (depth + 1) _ stop, eval_step_at_up_to (depth + 1) _ step]
    | list items =>
        simp only [Expr.upTo, evalAt, hdepth, if_false, eval_all_at_up_to (depth + 1) _ _ items]
    | binary op left right =>
        simp only [Expr.upTo, evalAt, hdepth, if_false, eval_at_up_to (depth + 1) _ left,
          eval_at_up_to (depth + 1) _ right]

/-- The values of trees only depend on as many levels as the limit leaves to their depth. -/
theorem eval_all_at_up_to (depth : Nat) (origin : Origin) (index : Nat) (exprs : List Expr) :
    scope.evalAllAt calls depth origin index (Expr.allUpTo (scope.maxDepth - depth) exprs) =
      scope.evalAllAt calls depth origin index exprs := by
  cases exprs with
  | nil => rfl
  | cons expr exprs =>
      rw [Expr.allUpTo, evalAllAt, evalAllAt, eval_at_up_to depth _ expr,
        eval_all_at_up_to depth origin (index + 1) exprs]

/-- The step of a range only depends on as many levels as the limit leaves to its depth. -/
theorem eval_step_at_up_to (depth : Nat) (origin : Origin) (step : Option Expr) :
    scope.evalStepAt calls depth origin (Expr.stepUpTo (scope.maxDepth - depth) step) =
      scope.evalStepAt calls depth origin step := by
  cases step with
  | none => rfl
  | some step => rw [Expr.stepUpTo, evalStepAt, evalStepAt, eval_at_up_to depth _ step]
end

/-- The values of segments only depend on as many levels as the limit says. -/
theorem eval_segments_up_to (origin : Origin) (index : Nat) (exprs : List Expr) :
    scope.evalSegments calls origin index (Expr.allUpTo scope.maxDepth exprs) =
      scope.evalSegments calls origin index exprs := by
  induction exprs generalizing index with
  | nil => rfl
  | cons expr exprs ih =>
      have hexpr : scope.evalAt calls 0 (index :: origin) (expr.upTo scope.maxDepth) =
          scope.evalAt calls 0 (index :: origin) expr := eval_at_up_to 0 (index :: origin) expr
      rw [Expr.allUpTo, evalSegments, evalSegments, hexpr, ih]

end Scope

end TextTemplate
