import TextTemplate.Engine.Basic
import TextTemplate.Proofs.Eval.Alike

/-!
# The keys that a template depends on

A template cannot be influenced by what a context has under keys that the template does not mention,
even though its lambdas keep the whole context: in two contexts that agree on the variables of the
template and on the captures, it has the same text or the same error
(`evaluate_text_of_agreement`). The evaluator is shown to have alike values in scopes that are alike
(`Scope.agree_eval_at`), first for one walk of a tree and then for closures that are called within
each other.
-/

namespace TextTemplate

/-- Scopes of the standard library with the same limit and alike contexts. -/
structure Scope.Alike (keys : List String) (first second : Scope) : Prop where
  first_standard : first.resolver = .standard
  second_standard : second.resolver = .standard
  maxDepth_eq : first.maxDepth = second.maxDepth
  context : first.context.Alike keys second.context

variable {keys : List String} {host : Host} {invoke later : Invoke}

namespace Scope

variable {first second : Scope}

/-- Calls of functions with alike arguments agree. -/
theorem agree_call (hscope : first.Alike keys second) (hinvoke : invoke.Alike keys later)
    {xs ys : List Value} (hargs : List.Forall₂ (Value.Alike keys) xs ys) (origin : Origin)
    (name : String) :
    Agree (Value.Alike keys) (first.call ⟨host, invoke⟩ origin name xs)
      (second.call ⟨host, later⟩ origin name ys) := by
  have hlibrary : Agree (Value.Alike keys)
      (Library.standard invoke ⟨name, xs, first.context, origin⟩)
      (Library.standard later ⟨name, ys, second.context, origin⟩) :=
    agree_standard hinvoke rfl rfl hargs
  rw [call, call, hscope.first_standard, hscope.second_standard]
  revert hlibrary
  simp only [Resolver.library]
  generalize Library.standard invoke ⟨name, xs, first.context, origin⟩ = one
  generalize Library.standard later ⟨name, ys, second.context, origin⟩ = two
  rintro (hvalues | reason)
  · exact .ok hvalues
  · -- The same error is shown in the same way.
    dsimp only
    cases reason.message with
    | ok message => exact .ok (.of_closure_free trivial)
    | error halt => exact .error halt

/-- The bounds that alike values are agree. -/
theorem agree_bound_of {x y : Value} (h : Value.Alike keys x y) :
    Agree Eq (boundOf x) (boundOf y) := by
  refine .of_eq (h.congr fun value => ?_)
  cases value with
  | list | map | closure =>
      exact congrArg (Except.error <| Halt.fault <| .invalidRangeBound ·) (repr_pruned _)
  | _ => rfl

/-- Operators on alike values agree. -/
theorem agree_apply_op (op : BinaryOp) {x y z w : Value} (hleft : Value.Alike keys x y)
    (hright : Value.Alike keys z w) :
    Agree (Value.Alike keys) (applyOp op x z) (applyOp op y w) := by
  have hsame : op.apply x z = op.apply y w := by
    rw [← apply_pruned, hleft.pruned_eq, hright.pruned_eq, apply_pruned]
  rw [applyOp, applyOp, hsame]
  cases hvalue : op.apply y w with
  | ok value => exact .ok (.of_closure_free (apply_every hvalue))
  | error reason => exact .error _

mutual
/-- Evaluating a tree in alike scopes has values that are alike. -/
theorem agree_eval_at (hscope : first.Alike keys second) (hcaptures : Context.capturesKey ∈ keys)
    (hinvoke : invoke.Alike keys later) (depth : Nat) (origin : Origin) : (expr : Expr) →
    Expr.AtomsWithin keys expr.nodes →
    Agree (Value.Alike keys) (first.evalAt ⟨host, invoke⟩ depth origin expr)
      (second.evalAt ⟨host, later⟩ depth origin expr)
  | expr, hnodes => by
      by_cases hdepth : first.maxDepth ≤ depth
      · rw [evalAt.eq_def, evalAt.eq_def, ← hscope.maxDepth_eq, if_pos hdepth, if_pos hdepth]
        exact .error _
      · have hlater : ¬ second.maxDepth ≤ depth := hscope.maxDepth_eq ▸ hdepth
        cases expr with
        | text content =>
            simp only [evalAt, hdepth, hlater, if_false]
            exact .ok (.of_closure_free trivial)
        | literal literal =>
            simp only [evalAt, hdepth, hlater, if_false]
            exact .ok (.of_closure_free (literal_every literal))
        | atom name =>
            simp only [evalAt, hdepth, hlater, if_false]
            exact .ok (hscope.context.get?_getD (hnodes name (Expr.mem_nodes_self _)))
        | property subject key =>
            rw [Expr.nodes] at hnodes
            by_cases hatom : ∃ name, subject = .atom name
            · obtain ⟨name, rfl⟩ := hatom
              simp only [evalAt, hdepth, hlater, if_false]
              exact .ok (hscope.context.variable_property
                (hnodes.of_cons name (Expr.mem_nodes_self _)) key)
            · rw [eval_at_property hdepth fun name heq => hatom ⟨name, heq⟩,
                eval_at_property hlater fun name heq => hatom ⟨name, heq⟩]
              exact (agree_eval_at hscope hcaptures hinvoke _ _ subject hnodes.of_cons).bind
                fun _ _ hvalue => .ok (hvalue.lookup key)
        | access subject index =>
            rw [Expr.nodes] at hnodes
            obtain ⟨hsubject, hindex⟩ := hnodes.of_cons.of_append
            simp only [evalAt, hdepth, hlater, if_false]
            refine (agree_eval_at hscope hcaptures hinvoke _ _ subject hsubject).bind
              fun _ _ hvalue => ?_
            exact (agree_eval_at hscope hcaptures hinvoke _ _ index hindex).bind
              fun _ _ hplace => .ok (hvalue.access hplace)
        | function name args =>
            rw [Expr.nodes] at hnodes
            simp only [evalAt, hdepth, hlater, if_false]
            split
            · exact .error _
            · exact (agree_eval_all_at hscope hcaptures hinvoke _ _ 0 args hnodes.of_cons).bind
                fun _ _ hvalues => agree_call hscope hinvoke hvalues _ _
        | lambda body =>
            rw [Expr.nodes] at hnodes
            simp only [evalAt, hlater, if_false, hscope.first_standard, hscope.second_standard,
              hscope.maxDepth_eq]
            exact .ok (hscope.context.closure hnodes.of_cons _ _)
        | capture index =>
            simp only [evalAt, hdepth, hlater, if_false]
            exact .ok (hscope.context.capture hcaptures index)
        | range start stop step =>
            rw [Expr.nodes] at hnodes
            obtain ⟨hstart, hnodes⟩ := hnodes.of_cons.of_append
            obtain ⟨hstop, hstep⟩ := hnodes.of_append
            simp only [evalAt, hdepth, hlater, if_false]
            refine (agree_eval_at hscope hcaptures hinvoke _ _ start hstart).bind
              fun _ _ hvalue => ?_
            refine (agree_bound_of hvalue).bind fun low _ heq => heq ▸ ?_
            refine (agree_eval_at hscope hcaptures hinvoke _ _ stop hstop).bind
              fun _ _ hvalue => ?_
            refine (agree_bound_of hvalue).bind fun high _ heq => heq ▸ ?_
            refine (agree_eval_step_at hscope hcaptures hinvoke _ _ step hstep).bind
              fun stride _ heq => heq ▸ ?_
            rw [rangeOf]
            split
            · exact .error _
            · exact .ok (.of_closure_free trivial)
        | list items =>
            rw [Expr.nodes] at hnodes
            simp only [evalAt, hdepth, hlater, if_false]
            exact (agree_eval_all_at hscope hcaptures hinvoke _ _ 0 items hnodes.of_cons).bind
              fun _ _ hvalues => .ok (.list hvalues)
        | binary op left right =>
            rw [Expr.nodes] at hnodes
            obtain ⟨hleft, hright⟩ := hnodes.of_cons.of_append
            simp only [evalAt, hdepth, hlater, if_false]
            refine (agree_eval_at hscope hcaptures hinvoke _ _ left hleft).bind
              fun _ _ hfirst => ?_
            exact (agree_eval_at hscope hcaptures hinvoke _ _ right hright).bind
              fun _ _ hsecond => agree_apply_op op hfirst hsecond

/-- Evaluating trees in their order in alike scopes has values that are alike. -/
theorem agree_eval_all_at (hscope : first.Alike keys second)
    (hcaptures : Context.capturesKey ∈ keys) (hinvoke : invoke.Alike keys later) (depth : Nat)
    (origin : Origin) (index : Nat) : (exprs : List Expr) →
    Expr.AtomsWithin keys (Expr.nodesOfAll exprs) →
    Agree (List.Forall₂ (Value.Alike keys))
      (first.evalAllAt ⟨host, invoke⟩ depth origin index exprs)
      (second.evalAllAt ⟨host, later⟩ depth origin index exprs)
  | [], _ => by
      rw [evalAllAt, evalAllAt]
      exact .ok .nil
  | expr :: exprs, hnodes => by
      rw [Expr.nodesOfAll] at hnodes
      obtain ⟨hexpr, hexprs⟩ := hnodes.of_append
      rw [evalAllAt, evalAllAt]
      refine (agree_eval_at hscope hcaptures hinvoke _ _ expr hexpr).bind fun _ _ hvalue => ?_
      exact (agree_eval_all_at hscope hcaptures hinvoke _ _ (index + 1) exprs hexprs).bind
        fun _ _ hvalues => .ok (.cons hvalue hvalues)

/-- Evaluating the step of a range in alike scopes has the same value. -/
theorem agree_eval_step_at (hscope : first.Alike keys second)
    (hcaptures : Context.capturesKey ∈ keys) (hinvoke : invoke.Alike keys later) (depth : Nat)
    (origin : Origin) : (step : Option Expr) →
    Expr.AtomsWithin keys (Expr.nodesOfStep step) →
    Agree Eq (first.evalStepAt ⟨host, invoke⟩ depth origin step)
      (second.evalStepAt ⟨host, later⟩ depth origin step)
  | none, _ => by
      rw [evalStepAt, evalStepAt]
      exact .ok rfl
  | some expr, hnodes => by
      rw [evalStepAt, evalStepAt]
      exact (agree_eval_at hscope hcaptures hinvoke _ _ expr hnodes).bind
        fun _ _ hvalue => agree_bound_of hvalue
end

/-- Evaluating the segments of a template in alike scopes has values that are alike. -/
theorem agree_eval_segments (hscope : first.Alike keys second)
    (hcaptures : Context.capturesKey ∈ keys) (hinvoke : invoke.Alike keys later) (origin : Origin)
    (index : Nat) {exprs : List Expr} (hnodes : Expr.AtomsWithin keys (Expr.nodesOfAll exprs)) :
    Agree (List.Forall₂ (Value.Alike keys)) (first.evalSegments ⟨host, invoke⟩ origin index exprs)
      (second.evalSegments ⟨host, later⟩ origin index exprs) := by
  induction exprs generalizing index with
  | nil => exact .ok .nil
  | cons expr exprs ih =>
      rw [Expr.nodesOfAll] at hnodes
      obtain ⟨hexpr, hexprs⟩ := hnodes.of_append
      rw [evalSegments, evalSegments]
      refine (agree_eval_at hscope hcaptures hinvoke _ _ expr hexpr).bind fun _ _ hvalue => ?_
      exact (ih (index + 1) hexprs).bind fun _ _ hvalues => .ok (.cons hvalue.unwrapped hvalues)

end Scope

/-! ## Budgets -/

/-- Under every budget, calls of alike closures on alike arguments agree. -/
theorem invoke_within_alike (hcaptures : Context.capturesKey ∈ keys) (budget : Nat) :
    (invokeWithin host budget).Alike keys (invokeWithin host budget) := by
  induction budget with
  | zero => exact fun _ _ _ _ _ _ _ => .error _
  | succ budget ih =>
      intro c d hclosure xs ys hargs origin
      obtain ⟨hc, hd, hcontext, hbody, hdepth⟩ := hclosure.of_closures
      have hscope : Scope.Alike keys ⟨c.context.withCaptures xs, c.resolver, c.maxDepth⟩
          ⟨d.context.withCaptures ys, d.resolver, d.maxDepth⟩ :=
        ⟨hc.standard, hd.standard, hdepth, hcontext.with_captures hargs⟩
      have hrun : Agree (Value.Alike keys)
          (Invocation.run host ⟨c, xs, origin⟩ (invokeWithin host budget))
          (Invocation.run host ⟨d, ys, origin⟩ (invokeWithin host budget)) := by
        rw [Invocation.run, Invocation.run, hbody]
        refine (Scope.agree_eval_segments hscope hcaptures ih origin 0 hd.atoms).bind
          fun _ _ hvalues => ?_
        -- The body must have a single value, in both runs.
        rcases hvalues with _ | ⟨hvalue, _ | ⟨_, hmore⟩⟩
        · exact .error _
        · exact .ok hvalue
        · simp only [List.length_cons, hmore.length_eq]
          exact .error _
      exact hrun

/-! ## Whole evaluations -/

/-- The context has no closure within it, its keys are in lower case, and it names no resolver. -/
structure Context.IsPlain (context : Context) : Prop where
  closure_free : context.ClosureFree
  lower : context.HasLowerKeys
  unresolved : context.get? Context.resolverKey = none

/-- The text of a template in a context, as far as a budget of calls reaches. -/
def Context.rendering (context : Context) (host : Host) (maxDepth : Nat) (origin : Origin)
    (template : Template) (budget : Nat) : Except Halt String :=
  (Scope.evalTemplate ⟨context, .standard, maxDepth⟩ host budget origin template).map
    Value.joinedText

variable {first second : Context} {template : Template}

/-- Plain contexts that agree on the captures and the variables of a template are alike. -/
theorem Context.IsPlain.alike (hfirst : first.IsPlain) (hsecond : second.IsPlain)
    (hcaptures : first.get? Context.capturesKey = second.get? Context.capturesKey)
    (hatoms : ∀ name, .atom name ∈ Expr.nodesOfAll template →
      first.get? name = second.get? name) :
    first.Alike (Context.capturesKey :: Expr.atomNames (Expr.nodesOfAll template)) second where
  first_lower := hfirst.lower
  second_lower := hsecond.lower
  first_sees := hfirst.closure_free.every
  second_sees := hsecond.closure_free.every
  get?_eq key hkey := by
    rcases List.mem_cons.mp hkey with rfl | hkey
    · rw [hcaptures]
    · rw [hatoms key (Expr.mem_atom_names.mp hkey)]

/-- In contexts that are alike, a template has the same text under the same budget. -/
theorem rendering_of_alike
    (h : first.Alike (Context.capturesKey :: Expr.atomNames (Expr.nodesOfAll template)) second)
    (host : Host) (maxDepth : Nat) (origin : Origin) (budget : Nat) :
    first.rendering host maxDepth origin template budget =
      second.rendering host maxDepth origin template budget := by
  have hscope : Scope.Alike _ ⟨first, .standard, maxDepth⟩ ⟨second, .standard, maxDepth⟩ :=
    ⟨rfl, rfl, rfl, h⟩
  have hvalues : Agree (List.Forall₂ (Value.Alike _))
      (Scope.evalTemplate ⟨first, .standard, maxDepth⟩ host budget origin template)
      (Scope.evalTemplate ⟨second, .standard, maxDepth⟩ host budget origin template) :=
    Scope.agree_eval_segments hscope List.mem_cons_self
      (invoke_within_alike List.mem_cons_self budget) origin 0
      fun name hname => List.mem_cons_of_mem _ (Expr.mem_atom_names.mpr hname)
  refine hvalues.map_eq fun xs ys hlists => ?_
  have hpruned := (Value.Alike.list hlists).pruned_eq
  rw [pruned_list, pruned_list, Value.list.injEq] at hpruned
  rw [← joined_text_pruned, hpruned, joined_text_pruned]

/-- A greater budget does not change a text. -/
theorem rendering_of_le {context : Context} (hcontext : context.ClosureFree) {host : Host}
    {maxDepth : Nat} {origin : Origin} {less more : Nat} (hle : less ≤ more)
    (h : context.rendering host maxDepth origin template less ≠ .error .exhausted) :
    context.rendering host maxDepth origin template more =
      context.rendering host maxDepth origin template less := by
  have hrun : Dialogue _ id _
      (Scope.evaluation ⟨context, .standard, maxDepth⟩ host origin template) :=
    evaluation_dialogue hcontext maxDepth origin template
  refine congrArg (Except.map Value.joinedText)
    (hrun.mono (invoke_within_keeps less) (invoke_within_extends hle) fun heq => h ?_)
  exact congrArg (Except.map Value.joinedText) heq

/-- A source that can be parsed is compiled. -/
theorem compile_of_parse (engine : Engine) {source : String}
    (hparse : Template.parse source = .ok template) :
    engine.compile source = .ok (engine.compiled source template) := by
  unfold Engine.compile
  rw [hparse]

/-- The text of a source is that of the template that the source is compiled to. -/
theorem evaluate_text_of_parse (engine : Engine) {source : String}
    (hparse : Template.parse source = .ok template) (origin : Origin) (context : Context) :
    engine.evaluateText origin source context =
      (engine.compiled source template).runText origin context := by
  rw [Engine.evaluateText, compile_of_parse engine hparse]
  rfl

/-- An engine that selects the standard library shows the text of the template. -/
theorem evaluate_text_of_select {engine : Engine} {source : String}
    (hparse : Template.parse source = .ok template) {context : Context}
    (hselect : engine.resolvers.select context = .ok .standard) (origin : Origin) :
    engine.evaluateText origin source context =
      (context.rendering engine.host engine.options.maxDepth origin template
        callBudget).mapError .ofHalt := by
  have hrun : (engine.compiled source template).run origin context =
      (Scope.evalTemplate ⟨context, .standard, engine.options.maxDepth⟩ engine.host callBudget
        origin template).mapError .ofHalt := by
    rw [CompiledTemplate.run, Engine.compiled, Resolvers.evalTemplate, hselect]
    rfl
  rw [evaluate_text_of_parse engine hparse, CompiledTemplate.runText, hrun, Context.rendering]
  cases Scope.evalTemplate ⟨context, .standard, engine.options.maxDepth⟩ engine.host callBudget
    origin template <;> rfl

/-- In a plain context, an engine with the standard library shows the text of the template. -/
theorem evaluate_text_of_plain {engine : Engine} (hstandard : engine.resolvers.default = .standard)
    {source : String} (hparse : Template.parse source = .ok template) {context : Context}
    (h : context.IsPlain) (origin : Origin) :
    engine.evaluateText origin source context =
      (context.rendering engine.host engine.options.maxDepth origin template
        callBudget).mapError .ofHalt := by
  have hselect : engine.resolvers.select context = .ok .standard := by
    rw [Resolvers.select, Context.resolverName, h.unresolved, hstandard]
  exact evaluate_text_of_select hparse hselect origin

/-- What a context has under keys that a template does not mention cannot influence the template: in
plain contexts that agree on the captures and on the variables of the template, engines with the
standard library have the same text or the same error for it; and whatever the budgets of two
evaluations, both have the same outcome unless one of them is exhausted. -/
theorem evaluate_text_of_agreement (engine : Engine)
    (hstandard : engine.resolvers.default = .standard) {source : String}
    (hparse : Template.parse source = .ok template) (hfirst : first.IsPlain)
    (hsecond : second.IsPlain)
    (hcaptures : first.get? Context.capturesKey = second.get? Context.capturesKey)
    (hatoms : ∀ name, .atom name ∈ Expr.nodesOfAll template →
      first.get? name = second.get? name) (origin : Origin) :
    engine.evaluateText origin source first = engine.evaluateText origin source second ∧
    ∀ fewer more : Nat,
      first.rendering engine.host engine.options.maxDepth origin template fewer ≠
        .error .exhausted →
      second.rendering engine.host engine.options.maxDepth origin template more ≠
        .error .exhausted →
      first.rendering engine.host engine.options.maxDepth origin template fewer =
        second.rendering engine.host engine.options.maxDepth origin template more := by
  have halike := hfirst.alike hsecond hcaptures hatoms
  have hsame := rendering_of_alike halike engine.host engine.options.maxDepth origin
  constructor
  · rw [evaluate_text_of_plain hstandard hparse hfirst, hsame,
      evaluate_text_of_plain hstandard hparse hsecond]
  · intro fewer more hfewer hmore
    rcases Nat.le_total fewer more with hle | hle
    · rw [← rendering_of_le hfirst.closure_free hle hfewer, hsame]
    · rw [hsame, rendering_of_le hsecond.closure_free hle hmore]

/-- A context with an order that templates mention, and with a secret that they do not. -/
def orderWithSecret (secret : String) : Context :=
  .ofPairs [("order", .int 7), ("secret", .str secret)]

/-- An order with a secret is a plain context. -/
theorem order_with_secret_is_plain (secret : String) : (orderWithSecret secret).IsPlain where
  closure_free := by
    have hempty : Context.empty.ClosureFree := context_every_iff.mpr (List.forall_mem_nil _)
    have horder : (Value.int 7).ClosureFree := trivial
    have hsecret : (Value.str secret).ClosureFree := trivial
    exact (hempty.insert horder "order").insert hsecret "secret"
  lower := Context.has_lower_keys_of_pairs _
  unresolved := by cbv

/-- What an order with a secret has under the keys in question. -/
theorem get?_order_with_secret (secret : String) :
    (orderWithSecret secret).get? "order" = some (.int 7) ∧
      (orderWithSecret secret).get? "secret" = some (.str secret) ∧
      (orderWithSecret secret).get? Context.capturesKey = none :=
  ⟨by cbv, by cbv, by cbv⟩

/-- A template that hands a lambda to `map` shows the same in contexts with different secrets. -/
theorem evaluate_text_of_order_with_secret :
    let engine : Engine := ⟨fun _ => .standard, ⟨.standard, []⟩, {}⟩
    let source := "Order @order: @map([order], &(&1 + order))"
    (orderWithSecret "fig").IsPlain ∧ (orderWithSecret "plum").IsPlain ∧
      (orderWithSecret "fig").get? "secret" = some (.str "fig") ∧
      (orderWithSecret "plum").get? "secret" = some (.str "plum") ∧
      engine.evaluateText [] source (orderWithSecret "fig") =
        engine.evaluateText [] source (orderWithSecret "plum") := by
  intro engine source
  have hparse : Template.parse source = .ok [.text "Order ", .atom "order", .text ": ",
      .function "map" [.list [.atom "order"],
        .lambda [.binary .add (.capture 1) (.atom "order")]]] := by
    cbv
  refine ⟨order_with_secret_is_plain _, order_with_secret_is_plain _,
    (get?_order_with_secret _).2.1, (get?_order_with_secret _).2.1, ?_⟩
  refine (evaluate_text_of_agreement engine rfl hparse (order_with_secret_is_plain _)
    (order_with_secret_is_plain _)
    ((get?_order_with_secret _).2.2.trans (get?_order_with_secret _).2.2.symm)
    (fun name hname => ?_) []).1
  obtain rfl : name = "order" := by simpa [Expr.nodesOfAll, Expr.nodes] using hname
  rw [(get?_order_with_secret _).1, (get?_order_with_secret _).1]

end TextTemplate
