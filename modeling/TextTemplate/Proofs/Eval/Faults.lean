import TextTemplate.Proofs.Eval.Endless
import TextTemplate.Proofs.Expr.Nodes

/-!
# What faults come from

Every fault that ends an evaluation is caused by a node of the tree that is evaluated, wherever the
node is when it is evaluated: in the tree itself or in the body of a closure that has been kept in
lists and contexts and handed to other closures (`fault_caused_by_node`). Missing variables and
properties, unknown functions and unsuitable arguments are no faults.
-/

namespace TextTemplate

/-- One of the nodes can cause the fault. A limit on nesting can be met by any tree; the faults that
only an engine raises have no cause in a tree. -/
def EvalError.CausedBy (nodes : List Expr) : EvalError → Prop
  | .stackOverflow _ _ => True
  | .notANumber op _ =>
    ∃ written left right, .binary written left right ∈ nodes ∧ written.symbol = op.symbol
  | .arithmetic _ =>
    ∃ op left right, .binary op left right ∈ nodes ∧
      (op = .pow ∨ op = .add ∨ op = .sub ∨ op = .mul)
  | .invalidRangeBound _ => ∃ start stop step, .range start stop step ∈ nodes
  | .invalidStep _ => ∃ start stop step, .range start stop (some step) ∈ nodes
  | .missingFunctionName => ∃ args, .function "" args ∈ nodes
  | .lambdaArity count => count ≠ 1 ∧ ∃ body, .lambda body ∈ nodes ∧ body.length = count
  | .unknownResolver _ | .notABoolean _ => False

/-- Every fault that the outcome passes on as the error `wrap (.fault _)` is caused by one of the
nodes. -/
def Explained {ε α : Type} (nodes : List Expr) (wrap : Halt → ε) (outcome : Except ε α) : Prop :=
  ∀ error, outcome = .error (wrap (.fault error)) → error.CausedBy nodes

/-- The closure belongs to the standard library, and the lambda that made it is one of the nodes
together with everything in its body. -/
structure Closure.StemsFrom (nodes : List Expr) (closure : Closure) : Prop where
  standard : closure.resolver = .standard
  lambda : (Expr.lambda closure.body).nodes ⊆ nodes

/-- The scope belongs to the standard library, and the closures in its context stem from the
nodes. -/
structure Scope.StemsFrom (nodes : List Expr) (scope : Scope) : Prop where
  standard : scope.resolver = .standard
  context : scope.context.Every (Closure.StemsFrom nodes)

variable {ε α β : Type} {nodes : List Expr} {wrap : Halt → ε}

namespace Explained

/-- A value is no fault. -/
theorem ok (value : α) : Explained nodes wrap (.ok value) :=
  nofun

/-- A fault with a cause is explained. -/
theorem fault {error : EvalError} (h : error.CausedBy nodes) :
    Explained (α := α) nodes id (.error (.fault error)) := by
  intro other heq
  cases heq
  exact h

/-- What is computed from explained outcomes one after the other is explained. -/
theorem bind {first : Except ε α} {next : α → Except ε β} (hfirst : Explained nodes wrap first)
    (hnext : ∀ value, first = .ok value → Explained nodes wrap (next value)) :
    Explained nodes wrap (first >>= next) := by
  intro error heq
  cases first with
  | ok value => exact hnext value rfl error heq
  | error reason => exact hfirst error (congrArg _ (Except.error.inj heq))

end Explained

/-! ## Operators -/

/-- The fault of an operator is caused by the node of the operator. -/
theorem explained_apply_op {op : BinaryOp} {left right : Expr}
    (hnode : .binary op left right ∈ nodes) (first second : Value) :
    Explained nodes id (Scope.applyOp op first second) := by
  have hcombine : op = .add ∨ op = .sub ∨ op = .mul → ∀ error,
      op.combine first second = .error error → error.CausedBy nodes := by
    intro hop error h
    rw [BinaryOp.combine.eq_def] at h
    split at h
    · cases h
    · cases h
    · cases h
    · split at h <;> cases h
      exact ⟨op, left, right, hnode, Or.inr hop⟩
  have hnumeric : ∀ error, op.isNumeric → op.numeric first second = .error error →
      error.CausedBy nodes := by
    intro error hkind h
    rw [BinaryOp.numeric.eq_def] at h
    split at h
    · cases h
      exact ⟨op, left, right, hnode, rfl⟩
    · split at h
      · cases h
        exact ⟨op, left, right, hnode, rfl⟩
      · -- Comparisons and quotients of numbers always have a value.
        cases op with
        | add | sub | mul => exact hcombine (by simp) error h
        | div | gt | ge | lt | le => cases h
        | pow | concat | eq | ne => cases hkind
  have happly : ∀ error, op.apply first second = .error error → error.CausedBy nodes := by
    intro error h
    cases op with
    | pow =>
        rw [BinaryOp.apply, BinaryOp.power] at h
        split at h <;> cases h
        exact ⟨.pow, left, right, hnode, Or.inl rfl⟩
    | eq | ne | concat => cases h
    | _ => exact hnumeric error rfl h
  intro error h
  rw [Scope.applyOp] at h
  split at h
  · cases h
  · next reason hreason =>
      cases h
      exact happly error hreason

/-! ## The standard library -/

variable {invoke : Invoke}

namespace Invoke

/-- Calls of closures that stem from the nodes only have faults that the nodes cause. -/
def Explains (nodes : List Expr) (invoke : Invoke) : Prop :=
  ∀ call : Invocation, call.Every (Closure.StemsFrom nodes) →
    Explained nodes id (call.answer invoke)

end Invoke

/-- Calling a closure on each item only has faults that the nodes cause. -/
theorem explained_map_items (hinvoke : invoke.Explains nodes) {call : Call} {closure : Closure}
    (hclosure : closure.Every (Closure.StemsFrom nodes)) {items : List Value}
    (hitems : ∀ item ∈ items, item.Every (Closure.StemsFrom nodes)) (step : Nat) :
    Explained nodes CallError.halted
      (StandardFunction.mapItems invoke call closure step items) := by
  induction items generalizing step with
  | nil => exact .ok []
  | cons item items ih =>
      obtain ⟨hitem, hrest⟩ := List.forall_mem_cons.mp hitems
      have hcall := hinvoke ⟨closure, [item], step :: call.origin⟩
        ⟨hclosure, List.forall_mem_singleton.mpr hitem⟩
      have hone : Explained nodes CallError.halted (call.invoke invoke step closure [item]) := by
        intro error h
        rw [Call.invoke] at h
        split at h
        · cases h
        · next halt hhalt =>
            cases h
            exact hcall error hhalt
      refine hone.bind fun value _ => ?_
      exact (ih hrest (step + 1)).bind fun values _ => .ok (value :: values)

/-- A call of the standard library only has faults that the nodes cause. -/
theorem explained_standard (hinvoke : invoke.Explains nodes) (call : Call)
    (hargs : ∀ arg ∈ call.args, arg.Every (Closure.StemsFrom nodes)) :
    Explained nodes CallError.halted (Library.standard invoke call) := by
  rw [Library.standard]
  split
  · next function _ =>
      by_cases hmap : function = .map
      · subst hmap
        rw [StandardFunction.answer]
        split
        · next collection closure hcall =>
            rw [hcall, List.forall_mem_cons, List.forall_mem_singleton] at hargs
            split
            · next items hitems =>
                have hmembers := StandardFunction.elements_every hargs.1 hitems
                exact (explained_map_items hinvoke (every_closure.mp hargs.2) hmembers 0).bind
                  fun values _ => .ok (Value.list values)
            · exact fun _ h => by cases h
        · exact fun _ h => by cases h
        · exact fun _ h => by cases h
      · intro error h
        exact absurd h (StandardFunction.answer_ne_halted hmap _)
  · exact fun _ h => by cases h

/-! ## Trees -/

namespace Scope

variable {host : Host} {scope : Scope}

/-- A call of a function only has faults that the nodes cause. -/
theorem explained_call (hstandard : scope.resolver = .standard) (hinvoke : invoke.Explains nodes)
    {args : List Value} (hargs : ∀ arg ∈ args, arg.Every (Closure.StemsFrom nodes))
    (origin : Origin) (name : String) :
    Explained nodes id (scope.call ⟨host, invoke⟩ origin name args) := by
  have hlibrary := explained_standard hinvoke ⟨name, args, scope.context, origin⟩ hargs
  intro error h
  rw [call, hstandard] at h
  split at h
  · cases h
  · next reason hreason =>
      -- Only a halted call has no message to show in its place.
      cases reason with
      | halted halt =>
          cases h
          exact hlibrary error hreason
      | _ => cases h

/-- Asking for a bound only has faults that a range causes. -/
theorem explained_bound_of {start stop : Expr} {step : Option Expr}
    (hnode : .range start stop step ∈ nodes) (value : Value) :
    Explained nodes id (boundOf value) := by
  cases value with
  | int value => exact .ok value
  | _ => exact .fault ⟨start, stop, step, hnode⟩

mutual
/-- Evaluating a tree only has faults that its nodes cause. -/
theorem explained_eval_at (hscope : scope.StemsFrom nodes)
    (hkeeps : invoke.Keeps (Closure.StemsFrom nodes)) (hinvoke : invoke.Explains nodes)
    (depth : Nat) (origin : Origin) : (expr : Expr) → expr.nodes ⊆ nodes →
    Explained nodes id (scope.evalAt ⟨host, invoke⟩ depth origin expr)
  | expr, hnodes => by
      have hself : expr ∈ nodes := hnodes expr.mem_nodes_self
      by_cases hdepth : scope.maxDepth ≤ depth
      · rw [evalAt.eq_def, if_pos hdepth]
        exact .fault trivial
      · cases expr with
        | text | literal | atom | lambda | capture =>
            simp only [evalAt, hdepth, if_false]
            exact .ok _
        | property subject key =>
            rw [Expr.nodes, List.cons_subset] at hnodes
            by_cases hatom : ∃ name, subject = .atom name
            · obtain ⟨name, rfl⟩ := hatom
              simp only [evalAt, hdepth, if_false]
              exact .ok _
            · rw [eval_at_property hdepth fun name heq => hatom ⟨name, heq⟩]
              exact (explained_eval_at hscope hkeeps hinvoke _ _ subject hnodes.2).bind
                fun value _ => .ok _
        | access subject index =>
            rw [Expr.nodes, List.cons_subset, List.append_subset] at hnodes
            simp only [evalAt, hdepth, if_false]
            refine (explained_eval_at hscope hkeeps hinvoke _ _ subject hnodes.2.1).bind
              fun value _ => ?_
            exact (explained_eval_at hscope hkeeps hinvoke _ _ index hnodes.2.2).bind
              fun place _ => .ok _
        | function name args =>
            rw [Expr.nodes, List.cons_subset] at hnodes
            simp only [evalAt, hdepth, if_false]
            split
            · next hempty =>
                obtain rfl : name = "" := String.isEmpty_iff.mp hempty
                exact .fault ⟨args, hself⟩
            · refine (explained_eval_all_at hscope hkeeps hinvoke _ _ 0 args hnodes.2).bind
                fun values hvalues => ?_
              -- The arguments hold no closures but those that stem from the nodes.
              have hdialogue : Dialogue (Closure.StemsFrom nodes) id _ fun invoke =>
                  scope.evalAllAt ⟨host, invoke⟩ (depth + 1) origin 0 args :=
                eval_all_at_dialogue hscope.standard hscope.context _ _ 0 args
                  fun body hbody origin => ⟨hscope.standard, List.Subset.trans
                    (Expr.nodes_subset_of_mem_lambdas_of_all args hbody) hnodes.2⟩
              exact explained_call hscope.standard hinvoke (hdialogue.keeps hkeeps hvalues) _ _
        | range start stop step =>
            rw [Expr.nodes, List.cons_subset, List.append_subset, List.append_subset] at hnodes
            obtain ⟨-, hstart, hstop, hstep⟩ := hnodes
            simp only [evalAt, hdepth, if_false]
            refine (explained_eval_at hscope hkeeps hinvoke _ _ start hstart).bind
              fun first _ => ?_
            refine (explained_bound_of hself first).bind fun first _ => ?_
            refine (explained_eval_at hscope hkeeps hinvoke _ _ stop hstop).bind
              fun last _ => ?_
            refine (explained_bound_of hself last).bind fun last _ => ?_
            refine (explained_eval_step_at hscope hkeeps hinvoke _ _ hself hstep).bind
              fun stride hstride => ?_
            rw [rangeOf]
            split
            · next hlow =>
                -- A step that is not given is one, which is high enough.
                cases step with
                | none =>
                    rw [evalStepAt] at hstride
                    obtain rfl : 1 = stride := Except.ok.inj hstride
                    exact absurd hlow (by decide)
                | some step => exact .fault ⟨start, stop, step, hself⟩
            · exact .ok _
        | list items =>
            rw [Expr.nodes, List.cons_subset] at hnodes
            simp only [evalAt, hdepth, if_false]
            exact (explained_eval_all_at hscope hkeeps hinvoke _ _ 0 items hnodes.2).bind
              fun values _ => .ok _
        | binary op left right =>
            rw [Expr.nodes, List.cons_subset, List.append_subset] at hnodes
            simp only [evalAt, hdepth, if_false]
            refine (explained_eval_at hscope hkeeps hinvoke _ _ left hnodes.2.1).bind
              fun first _ => ?_
            refine (explained_eval_at hscope hkeeps hinvoke _ _ right hnodes.2.2).bind
              fun second _ => ?_
            exact explained_apply_op hself first second

/-- Evaluating trees in their order only has faults that their nodes cause. -/
theorem explained_eval_all_at (hscope : scope.StemsFrom nodes)
    (hkeeps : invoke.Keeps (Closure.StemsFrom nodes)) (hinvoke : invoke.Explains nodes)
    (depth : Nat) (origin : Origin) (index : Nat) : (exprs : List Expr) →
    Expr.nodesOfAll exprs ⊆ nodes →
    Explained nodes id (scope.evalAllAt ⟨host, invoke⟩ depth origin index exprs)
  | [], _ => by
      rw [evalAllAt]
      exact .ok []
  | expr :: exprs, hnodes => by
      rw [Expr.nodesOfAll, List.append_subset] at hnodes
      rw [evalAllAt]
      refine (explained_eval_at hscope hkeeps hinvoke _ _ expr hnodes.1).bind
        fun value _ => ?_
      exact (explained_eval_all_at hscope hkeeps hinvoke _ _ (index + 1) exprs hnodes.2).bind
        fun values _ => .ok (value :: values)

/-- Evaluating the step of a range only has faults that its nodes and the range cause. -/
theorem explained_eval_step_at (hscope : scope.StemsFrom nodes)
    (hkeeps : invoke.Keeps (Closure.StemsFrom nodes)) (hinvoke : invoke.Explains nodes)
    (depth : Nat) (origin : Origin) {start stop : Expr} : {step : Option Expr} →
    .range start stop step ∈ nodes → Expr.nodesOfStep step ⊆ nodes →
    Explained nodes id (scope.evalStepAt ⟨host, invoke⟩ depth origin step)
  | none, _, _ => by
      rw [evalStepAt]
      exact .ok 1
  | some expr, hnode, hnodes => by
      rw [evalStepAt]
      exact (explained_eval_at hscope hkeeps hinvoke _ _ expr hnodes).bind
        fun value _ => explained_bound_of hnode value
end

/-- Evaluating the segments of a template only has faults that their nodes cause. -/
theorem explained_eval_segments (hscope : scope.StemsFrom nodes)
    (hkeeps : invoke.Keeps (Closure.StemsFrom nodes)) (hinvoke : invoke.Explains nodes)
    (origin : Origin) (index : Nat) {exprs : List Expr} (hnodes : Expr.nodesOfAll exprs ⊆ nodes) :
    Explained nodes id (scope.evalSegments ⟨host, invoke⟩ origin index exprs) := by
  induction exprs generalizing index with
  | nil =>
      rw [evalSegments]
      exact .ok []
  | cons expr exprs ih =>
      rw [Expr.nodesOfAll, List.append_subset] at hnodes
      rw [evalSegments]
      refine (explained_eval_at hscope hkeeps hinvoke _ _ expr hnodes.1).bind
        fun value _ => ?_
      exact (ih (index + 1) hnodes.2).bind fun values _ => .ok (value.unwrapped :: values)

/-- As many values are computed as there are segments. -/
theorem length_of_eval_segments {calls : Calls} {origin : Origin} {index : Nat}
    {exprs : List Expr} {values : List Value}
    (h : scope.evalSegments calls origin index exprs = .ok values) :
    values.length = exprs.length := by
  induction exprs generalizing index values with
  | nil =>
      cases h
      rfl
  | cons expr exprs ih =>
      rw [evalSegments] at h
      cases hone : scope.evalAt calls 0 (index :: origin) expr with
      | error halt =>
          rw [hone] at h
          cases h
      | ok value =>
          cases hmore : scope.evalSegments calls origin (index + 1) exprs with
          | error halt =>
              rw [hone, hmore] at h
              cases h
          | ok rest =>
              rw [hone, hmore] at h
              obtain rfl : value.unwrapped :: rest = values := Except.ok.inj h
              rw [List.length_cons, List.length_cons, ih hmore]

end Scope

/-! ## Budgets -/

/-- Closures that a closure makes stem from the same nodes as the closure itself. -/
theorem Closure.StemsFrom.inner {closure : Closure} (h : closure.StemsFrom nodes)
    {context : Context} {body : List Expr} (hbody : body ∈ Expr.lambdasOfAll closure.body)
    (origin : Origin) :
    Closure.StemsFrom nodes ⟨context, body, closure.resolver, closure.maxDepth, origin⟩ where
  standard := h.standard
  lambda := by
    refine List.Subset.trans (Expr.nodes_subset_of_mem_lambdas_of_all closure.body hbody) ?_
    exact List.Subset.trans (List.subset_cons_self _ _) h.lambda

/-- Under every budget, calls of closures that stem from the nodes have such values and only faults
that the nodes cause. -/
theorem invoke_within_explains (nodes : List Expr) (host : Host) (budget : Nat) :
    (invokeWithin host budget).Keeps (Closure.StemsFrom nodes) ∧
      (invokeWithin host budget).Explains nodes := by
  induction budget with
  | zero => exact ⟨fun _ _ => nofun, fun _ _ => nofun⟩
  | succ budget ih =>
      obtain ⟨hkeeps, hexplains⟩ := ih
      refine ⟨fun call hcall value h => ?_, fun call hcall => ?_⟩
      · obtain ⟨hself, hcontext⟩ := closure_every_iff.mp hcall.1
        have hbody : Dialogue (Closure.StemsFrom nodes) id _ (call.run host) :=
          Invocation.run_dialogue hself.standard (hcontext.with_captures hcall.2)
            fun _ hbody origin => hself.inner hbody origin
        rw [answer_invoke_within_succ] at h
        exact hbody.keeps hkeeps h
      · obtain ⟨hself, hcontext⟩ := closure_every_iff.mp hcall.1
        rw [answer_invoke_within_succ, Invocation.run]
        have hnodes : Expr.nodesOfAll call.closure.body ⊆ nodes :=
          List.Subset.trans (List.subset_cons_self _ _) hself.lambda
        have hsegments : Explained nodes id (Scope.evalSegments
            ⟨call.closure.context.withCaptures call.args, call.closure.resolver,
              call.closure.maxDepth⟩ ⟨host, invokeWithin host budget⟩ call.origin 0
            call.closure.body) :=
          Scope.explained_eval_segments ⟨hself.standard, hcontext.with_captures hcall.2⟩ hkeeps
            hexplains call.origin 0 hnodes
        refine hsegments.bind fun values hvalues => ?_
        split
        · exact .ok _
        · next hmany =>
            -- The body has as many values as it has trees, and not exactly one.
            have hlength := Scope.length_of_eval_segments hvalues
            refine .fault ⟨fun hone => ?_, call.closure.body, ?_, hlength.symm⟩
            · obtain ⟨value, rfl⟩ := List.length_eq_one_iff.mp hone
              exact hmany value rfl
            · exact hself.lambda (Expr.mem_nodes_self _)

/-- Every fault is caused by a node that is present: if the evaluation of a tree or of a template
ends with a fault, in a context without closures and with the standard library, then one of the
nodes of the tree or the template can cause the fault. -/
theorem fault_caused_by_node {context : Context} (hcontext : context.ClosureFree) (host : Host)
    (maxDepth budget : Nat) (origin : Origin) :
    (∀ (expr : Expr) (error : EvalError),
      Scope.eval ⟨context, .standard, maxDepth⟩ host budget origin expr = .error (.fault error) →
        error.CausedBy expr.nodes) ∧
    (∀ (template : Template) (error : EvalError),
      Scope.evalTemplate ⟨context, .standard, maxDepth⟩ host budget origin template =
        .error (.fault error) → error.CausedBy (Expr.nodesOfAll template)) := by
  constructor
  · intro expr error h
    obtain ⟨hkeeps, hexplains⟩ := invoke_within_explains expr.nodes host budget
    exact Scope.explained_eval_at ⟨rfl, hcontext.every⟩ hkeeps hexplains 0 origin expr
      (List.Subset.refl _) error h
  · intro template error h
    obtain ⟨hkeeps, hexplains⟩ := invoke_within_explains (Expr.nodesOfAll template) host budget
    exact Scope.explained_eval_segments ⟨rfl, hcontext.every⟩ hkeeps hexplains origin 0
      (List.Subset.refl _) error h

/-- A power of a text, in a lambda that another lambda hands to `map`. -/
def hiddenPower : Expr :=
  .function "map" [.list [.lambda [.binary .pow (.capture 1) (.literal (.str "x"))]],
    .lambda [.function "map" [.list [.literal (.int 1)], .capture 1]]]

/-- The fault of the power ends the evaluation of the whole tree, and its cause is found. -/
theorem hidden_power_fault_has_cause :
    Context.empty.ClosureFree ∧
      Scope.eval ⟨.empty, .standard, 10⟩ (fun _ => .standard) 2 [] hiddenPower =
        .error (.fault (.arithmetic "cannot raise 1 to the power of \"x\"")) ∧
      (EvalError.arithmetic "cannot raise 1 to the power of \"x\"").CausedBy hiddenPower.nodes := by
  have hempty : Context.empty.ClosureFree := context_every_iff.mpr (List.forall_mem_nil _)
  have hfault : Scope.eval ⟨.empty, .standard, 10⟩ (fun _ => .standard) 2 [] hiddenPower =
      .error (.fault (.arithmetic "cannot raise 1 to the power of \"x\"")) := rfl
  exact ⟨hempty, hfault, (fault_caused_by_node hempty _ 10 2 []).1 hiddenPower _ hfault⟩

end TextTemplate
