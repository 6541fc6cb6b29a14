import TextTemplate.Proofs.Context.Keys
import TextTemplate.Proofs.Eval.Sequential
import TextTemplate.Proofs.Expr.Nodes

/-!
# Calls of lambdas as substitution

A call of a lambda evaluates its body in the context with the arguments as the captures. Where the
arguments are literals, the body may as well be evaluated in the context itself, with the literals
in place of the captures (`Expr.substituted`). `Scope.eval_at_substituted` says so of every tree
without a lambda that refers to no captures but those of the arguments, and
`lambda_call_eq_substituted` of a call.
-/

namespace TextTemplate

/-! ## Substitution -/

/-- The argument that a capture refers to, counted from one. -/
def Literal.captured? (args : List Literal) (index : UInt64) : Option Literal :=
  match index.toNat with
  | 0 => none
  | position + 1 => args[position]?

namespace Expr

mutual
/-- The tree with the arguments in place of its captures. A lambda within it has arguments of its
own, to which its captures refer. -/
def substituted (args : List Literal) : Expr → Expr
  | .text content => .text content
  | .literal value => .literal value
  | .atom name => .atom name
  | .property subject key => .property (subject.substituted args) key
  | .access subject index => .access (subject.substituted args) (index.substituted args)
  | .function name exprs => .function name (substitutedAll args exprs)
  | .lambda body => .lambda body
  | .capture index => ((Literal.captured? args index).map .literal).getD (.capture index)
  | .range start stop step =>
    .range (start.substituted args) (stop.substituted args) (substitutedStep args step)
  | .list items => .list (substitutedAll args items)
  | .binary op left right => .binary op (left.substituted args) (right.substituted args)

/-- The trees with the arguments in place of their captures. -/
def substitutedAll (args : List Literal) : List Expr → List Expr
  | [] => []
  | expr :: exprs => expr.substituted args :: substitutedAll args exprs

/-- The step of a range with the arguments in place of its captures. -/
def substitutedStep (args : List Literal) : Option Expr → Option Expr
  | none => none
  | some expr => some (expr.substituted args)
end

variable {args : List Literal}

/-- Substitution keeps the number of trees. -/
@[simp] theorem length_substituted_all (exprs : List Expr) :
    (substitutedAll args exprs).length = exprs.length := by
  induction exprs with
  | nil => rfl
  | cons expr exprs ih => rw [substitutedAll, List.length_cons, ih, List.length_cons]

/-- Substitution makes no variables. -/
theorem substituted_ne_atom {expr : Expr} (h : ∀ name, expr ≠ .atom name) (name : String) :
    expr.substituted args ≠ .atom name := by
  cases expr with
  | atom other => exact absurd rfl (h other)
  | capture index =>
      rw [substituted]
      cases Literal.captured? args index <;> exact nofun
  | _ => exact nofun

/-- The node means the same without the captures once `count` arguments are in place of them: it is
no lambda, it is not the variable that the captures are kept under, and if it is a capture, it
refers to one of the arguments. -/
def Substitutable (count : Nat) : Expr → Prop
  | .lambda _ => False
  | .atom name => Text.lower name ≠ Context.capturesKey
  | .capture index => 1 ≤ index.toNat ∧ index.toNat ≤ count
  | _ => True

/-- A capture of one of the arguments has an argument. -/
theorem Substitutable.exists_captured {index : UInt64}
    (h : (Expr.capture index).Substitutable args.length) :
    ∃ arg, Literal.captured? args index = some arg := by
  obtain ⟨hpos, hle⟩ := h
  rw [Literal.captured?]
  split
  · omega
  · next position hposition => exact ⟨_, List.getElem?_eq_getElem (by omega)⟩

end Expr

/-! ## Contexts with captures -/

namespace Context

variable {context : Context} {args : List Literal}

/-- The property of another variable is that without the captures. -/
theorem variable_property_with_captures {name : String} (hname : Text.lower name ≠ capturesKey)
    (values : List Value) (key : String) :
    Scope.variableProperty (context.withCaptures values) name key =
      Scope.variableProperty context name key := by
  rw [Scope.variableProperty, Scope.variableProperty, get?_with_captures_of_ne hname]

/-- A capture has the value of the argument that it refers to. -/
theorem capture_with_captures {index : UInt64} {arg : Literal}
    (h : Literal.captured? args index = some arg) :
    (context.withCaptures (args.map Literal.value)).capture index = arg.value := by
  rw [Literal.captured?] at h
  rw [capture, get?_with_captures_self]
  split at h
  · cases h
  · next position hposition => simp [hposition, h]

end Context

/-! ## Evaluations -/

/-- The functions of the standard library do not look at the context that they are called in. -/
theorem standard_of_context (invoke : Invoke) (call : Call) (context : Context) :
    Library.standard invoke { call with context := context } = Library.standard invoke call := by
  have hitems (closure : Closure) (step : Nat) (items : List Value) :
      StandardFunction.mapItems invoke { call with context := context } closure step items =
        StandardFunction.mapItems invoke call closure step items := by
    induction items generalizing step with
    | nil => rfl
    | cons item items ih =>
        rw [StandardFunction.mapItems, StandardFunction.mapItems]
        simp only [ih]
        rfl
  rw [Library.standard, Library.standard]
  cases StandardFunction.ofName? call.name with
  | none => rfl
  | some function =>
      cases function with
      | map => simp only [StandardFunction.answer, hitems, Call.argumentError, Call.arityError]
      | _ => rfl

namespace Scope

/-- The scope of the body of a lambda that is called on the arguments. -/
def applied (scope : Scope) (args : List Literal) : Scope :=
  { scope with context := scope.context.withCaptures (args.map Literal.value) }

variable {scope : Scope} {calls : Calls} {args : List Literal}

/-- A function is not told apart by the captures of the lambda that calls it. -/
theorem call_applied (hstandard : scope.resolver = .standard) (origin : Origin) (name : String)
    (values : List Value) :
    (scope.applied args).call calls origin name values = scope.call calls origin name values := by
  have happlied : (scope.applied args).resolver = .standard := hstandard
  rw [call, call, hstandard, happlied]
  simp only [Resolver.library]
  rw [← standard_of_context _ _ scope.context]

mutual
/-- Evaluating a tree with captures is evaluating it with the arguments in place of them. -/
theorem eval_at_substituted (hstandard : scope.resolver = .standard) (depth : Nat)
    (origin : Origin) : (expr : Expr) → (∀ node ∈ expr.nodes, node.Substitutable args.length) →
    (scope.applied args).evalAt calls depth origin expr =
      scope.evalAt calls depth origin (expr.substituted args)
  | expr, hnodes => by
      by_cases hdepth : scope.maxDepth ≤ depth
      · have hlater : (scope.applied args).maxDepth ≤ depth := hdepth
        rw [evalAt.eq_def, if_pos hlater, evalAt.eq_def, if_pos hdepth]
        rfl
      · have hlater : ¬ (scope.applied args).maxDepth ≤ depth := hdepth
        cases expr with
        | text content => simp only [Expr.substituted, evalAt, hdepth, hlater, if_false]
        | literal literal => simp only [Expr.substituted, evalAt, hdepth, hlater, if_false]
        | atom name =>
            have hname : Text.lower name ≠ Context.capturesKey := hnodes _ (Expr.mem_nodes_self _)
            simp only [Expr.substituted, evalAt, hdepth, hlater, if_false]
            rw [applied, Context.get?_with_captures_of_ne hname]
        | property subject key =>
            obtain ⟨-, hsubject⟩ := List.forall_mem_cons.mp hnodes
            rw [Expr.substituted]
            by_cases hatom : ∃ name, subject = .atom name
            · obtain ⟨name, rfl⟩ := hatom
              have hname : Text.lower name ≠ Context.capturesKey :=
                hsubject _ (Expr.mem_nodes_self _)
              simp only [Expr.substituted, evalAt, hdepth, hlater, if_false]
              rw [applied, Context.variable_property_with_captures hname]
            · have hcomputed : ∀ name, subject ≠ .atom name := fun name heq => hatom ⟨name, heq⟩
              rw [eval_at_property hlater hcomputed,
                eval_at_property hdepth (Expr.substituted_ne_atom hcomputed),
                eval_at_substituted hstandard _ _ subject hsubject]
        | access subject index =>
            obtain ⟨-, hnodes⟩ := List.forall_mem_cons.mp hnodes
            obtain ⟨hsubject, hindex⟩ := List.forall_mem_append.mp hnodes
            simp only [Expr.substituted, evalAt, hdepth, hlater, if_false]
            rw [eval_at_substituted hstandard _ _ subject hsubject,
              eval_at_substituted hstandard _ _ index hindex]
        | function name exprs =>
            obtain ⟨-, hexprs⟩ := List.forall_mem_cons.mp hnodes
            simp only [Expr.substituted, evalAt, hdepth, hlater, if_false]
            rw [eval_all_at_substituted hstandard _ _ 0 exprs hexprs]
            simp only [call_applied hstandard, Expr.length_substituted_all]
        | lambda body => exact absurd (hnodes _ (Expr.mem_nodes_self _)) id
        | capture index =>
            have hindex : (Expr.capture index).Substitutable args.length :=
              hnodes _ (Expr.mem_nodes_self _)
            obtain ⟨arg, harg⟩ := hindex.exists_captured
            have hcapture : (scope.applied args).context.capture index = arg.value :=
              Context.capture_with_captures harg
            rw [Expr.substituted, harg]
            simp only [Option.map_some, Option.getD_some, evalAt, hdepth, hlater, if_false,
              hcapture]
        | range start stop step =>
            obtain ⟨-, hnodes⟩ := List.forall_mem_cons.mp hnodes
            obtain ⟨hstart, hnodes⟩ := List.forall_mem_append.mp hnodes
            obtain ⟨hstop, hstep⟩ := List.forall_mem_append.mp hnodes
            simp only [Expr.substituted, evalAt, hdepth, hlater, if_false]
            rw [eval_at_substituted hstandard _ _ start hstart,
              eval_at_substituted hstandard _ _ stop hstop,
              eval_step_at_substituted hstandard _ _ step hstep]
        | list items =>
            obtain ⟨-, hitems⟩ := List.forall_mem_cons.mp hnodes
            simp only [Expr.substituted, evalAt, hdepth, hlater, if_false]
            rw [eval_all_at_substituted hstandard _ _ 0 items hitems]
        | binary op left right =>
            obtain ⟨-, hnodes⟩ := List.forall_mem_cons.mp hnodes
            obtain ⟨hleft, hright⟩ := List.forall_mem_append.mp hnodes
            simp only [Expr.substituted, evalAt, hdepth, hlater, if_false]
            rw [eval_at_substituted hstandard _ _ left hleft,
              eval_at_substituted hstandard _ _ right hright]

/-- Evaluating trees with captures is evaluating them with the arguments in place of them. -/
theorem eval_all_at_substituted (hstandard : scope.resolver = .standard) (depth : Nat)
    (origin : Origin) (index : Nat) : (exprs : List Expr) →
    (∀ node ∈ Expr.nodesOfAll exprs, node.Substitutable args.length) →
    (scope.applied args).evalAllAt calls depth origin index exprs =
      scope.evalAllAt calls depth origin index (Expr.substitutedAll args exprs)
  | [], _ => by rw [Expr.substitutedAll, evalAllAt, evalAllAt]
  | expr :: exprs, hnodes => by
      obtain ⟨hexpr, hexprs⟩ := List.forall_mem_append.mp hnodes
      rw [Expr.substitutedAll, evalAllAt, evalAllAt,
        eval_at_substituted hstandard _ _ expr hexpr,
        eval_all_at_substituted hstandard _ _ (index + 1) exprs hexprs]

/-- Evaluating a step with captures is evaluating it with the arguments in place of them. -/
theorem eval_step_at_substituted (hstandard : scope.resolver = .standard) (depth : Nat)
    (origin : Origin) : (step : Option Expr) →
    (∀ node ∈ Expr.nodesOfStep step, node.Substitutable args.length) →
    (scope.applied args).evalStepAt calls depth origin step =
      scope.evalStepAt calls depth origin (Expr.substitutedStep args step)
  | none, _ => by rw [Expr.substitutedStep, evalStepAt, evalStepAt]
  | some expr, hnodes => by
      rw [Expr.substitutedStep, evalStepAt, evalStepAt,
        eval_at_substituted hstandard _ _ expr hnodes]
end

/-- Evaluating a lambda makes a closure, and calling that closure on literals has the same value or
the same error as the body, evaluated where the lambda is, with the literals in place of its
captures. The call itself is one of those that the budget is for. -/
theorem lambda_call_eq_substituted {body : Expr} (hstandard : scope.resolver = .standard)
    (hbody : ∀ node ∈ body.nodes, node.Substitutable args.length) (host : Host) (budget : Nat)
    (made origin : Origin) :
    let closure : Closure := ⟨scope.context, [body], scope.resolver, scope.maxDepth, made⟩
    (∀ depth < scope.maxDepth,
      scope.evalAt calls depth made (.lambda [body]) = .ok (.closure closure)) ∧
    (invokeWithin host (budget + 1) closure (args.map Literal.value) origin).map ([·]) =
      scope.evalTemplate host budget origin [body.substituted args] := by
  intro closure
  refine ⟨fun depth hdepth => ?_, ?_⟩
  · rw [evalAt, if_neg (Nat.not_le.mpr hdepth)]
  · have hsame := @eval_at_substituted scope (.within host budget) args hstandard 0 (0 :: origin)
      body hbody
    rw [applied] at hsame
    simp only [invokeWithin, evalTemplate, evalSegments, closure]
    rw [← hsame, Calls.within]
    cases evalAt _ _ 0 (0 :: origin) body <;> rfl

/-- The lambda that adds a variable to its argument, called on five. -/
theorem lambda_call_eq_substituted_of_sum :
    let scope : Scope := ⟨.ofPairs [("fee", .int 2)], .standard, 9⟩
    let body : Expr := .binary .add (.capture 1) (.atom "Fee")
    let closure : Closure := ⟨scope.context, [body], .standard, 9, []⟩
    let inlined := scope.evalTemplate (fun _ => .standard) 0 [1]
      [.binary .add (.literal (.int 5)) (.atom "Fee")]
    (∀ node ∈ body.nodes, node.Substitutable 1) ∧
      (invokeWithin (fun _ => .standard) 1 closure [.int 5] [1]).map ([·]) = inlined ∧
      inlined = .ok [.int 7] := by
  intro scope body closure inlined
  have hfee : Text.lower "Fee" ≠ Context.capturesKey := by decide +kernel
  have hbody : ∀ node ∈ body.nodes, node.Substitutable 1 := by
    intro node hnode
    simp only [body, Expr.nodes, List.mem_cons, List.cons_append, List.nil_append,
      List.not_mem_nil, or_false] at hnode
    rcases hnode with rfl | rfl | rfl
    · trivial
    · exact ⟨Nat.le_refl 1, Nat.le_refl 1⟩
    · exact hfee
  obtain ⟨-, hcall⟩ := @lambda_call_eq_substituted scope (.within (fun _ => .standard) 0)
    [.int 5] body rfl hbody (fun _ => .standard) 0 [] [1]
  exact ⟨hbody, hcall, by cbv⟩

end Scope

end TextTemplate
