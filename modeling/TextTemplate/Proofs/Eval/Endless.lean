import Mathlib
import TextTemplate.Expr.Parser
import TextTemplate.Proofs.Context.Keys
import TextTemplate.Proofs.Eval.Reach

/-!
# Evaluations that do not end

The limit on nesting counts afresh in every call of a closure, so it does not bound how many calls
are within each other. An evaluation has an outcome under some budget of calls exactly if it does
not begin an endless chain of calls, each made by the body of the one before
(`finishes_iff_not_endless`). In an endless chain closures are handed to closures again and again; a
closure that is handed to itself makes one (`self_application_never_finishes`). What the limit does
bound is how far a body is looked at between two calls (`Invocation.run_up_to`).
-/

namespace TextTemplate

variable {host : Host} {α : Type}

/-- The value of the body of the closure that is called. -/
def Invocation.run (host : Host) (call : Invocation) (invoke : Invoke) : Except Halt Value := do
  let scope : Scope :=
    ⟨call.closure.context.withCaptures call.args, call.closure.resolver, call.closure.maxDepth⟩
  let values ← scope.evalSegments ⟨host, invoke⟩ call.origin 0 call.closure.body
  match values with
  | [value] => pure value
  | values => throw (.fault (.lambdaArity values.length))

/-- A call hands over a closure. -/
def Invocation.HandsClosure (call : Invocation) : Prop :=
  ∃ arg ∈ call.args, ¬ arg.ClosureFree

open Classical in
/-- Calls closures with a budget that is large enough for the call, if there is one. -/
noncomputable def Invoke.unbounded (host : Host) : Invoke := fun closure args origin =>
  if h : ∃ budget, invokeWithin host budget closure args origin ≠ .error .exhausted then
    invokeWithin host h.choose closure args origin
  else .error .exhausted

/-- The computation begins an endless chain of calls, each made by the body of the one before. -/
structure Endless (host : Host) (run : Invoke → Except Halt α) (chain : Nat → Invocation) :
    Prop where
  first : Makes run (.unbounded host) (chain 0)
  next : ∀ n, Makes ((chain n).run host) (.unbounded host) (chain (n + 1))

/-- The evaluation of a template, as it depends on the way to call closures. -/
def Scope.evaluation (scope : Scope) (host : Host) (origin : Origin) (template : Template)
    (invoke : Invoke) : Except Halt (List Value) :=
  scope.evalSegments ⟨host, invoke⟩ origin 0 template

/-- The evaluation of a template has values or a fault, under every budget that is large enough. -/
def Scope.Finishes (scope : Scope) (host : Host) (origin : Origin) (template : Template) : Prop :=
  ∃ outcome, outcome ≠ .error .exhausted ∧ ∃ enough, ∀ budget, enough ≤ budget →
    scope.evalTemplate host budget origin template = outcome

/-- The closure belongs to the standard library, has a body with fewer lambdas within each other
than `depth`, and no closure in its context but the captures, which its next call replaces. -/
structure Closure.Shallow (depth : Nat) (closure : Closure) : Prop where
  standard : closure.resolver = .standard
  plain : ∀ args : List Value, (∀ arg ∈ args, arg.ClosureFree) →
    (closure.context.withCaptures args).ClosureFree
  lambdas : Expr.lambdaDepthOfAll closure.body < depth

variable {depth : Nat}

/-- Closures that a closure makes are as shallow as the closure itself. -/
theorem Closure.Shallow.inner {closure : Closure} (h : closure.Shallow depth) {args : List Value}
    {body : List Expr} (hbody : body ∈ Expr.lambdasOfAll closure.body) (origin : Origin) :
    Closure.Shallow depth ⟨closure.context.withCaptures args, body, closure.resolver,
      closure.maxDepth, origin⟩ where
  standard := h.standard
  plain later hlater := by
    rw [with_captures_with_captures]
    exact h.plain later hlater
  lambdas := (lambda_depth_lt_of_all _ hbody).trans h.lambdas

/-- A call with one more in the budget evaluates the body of the closure. -/
theorem answer_invoke_within_succ (call : Invocation) (budget : Nat) :
    call.answer (invokeWithin host (budget + 1)) = call.run host (invokeWithin host budget) :=
  rfl

/-- The body of a closure of the standard library is a dialogue. -/
theorem Invocation.run_dialogue {P : Closure → Prop} {call : Invocation}
    (hstandard : call.closure.resolver = .standard)
    (hcontext : (call.closure.context.withCaptures call.args).Every P)
    (hlambdas : ∀ body ∈ Expr.lambdasOfAll call.closure.body, ∀ origin,
      P ⟨call.closure.context.withCaptures call.args, body, call.closure.resolver,
        call.closure.maxDepth, origin⟩) :
    Dialogue P id (Value.Every P) (call.run host) := by
  let scope : Scope :=
    ⟨call.closure.context.withCaptures call.args, call.closure.resolver, call.closure.maxDepth⟩
  have hbody : Dialogue P id (fun values : List Value => ∀ value ∈ values, value.Every P)
      fun invoke => scope.evalSegments ⟨host, invoke⟩ call.origin 0 call.closure.body :=
    Scope.eval_segments_dialogue hstandard hcontext call.origin 0 hlambdas
  refine hbody.bind fun values hvalues => ?_
  split
  · next value => exact .value (hvalues value (List.mem_singleton.mpr rfl))
  · exact .fault _

/-- The body of a shallow closure is a dialogue with shallow closures. -/
theorem Invocation.run_dialogue_of_shallow {call : Invocation}
    (h : call.Every (Closure.Shallow depth)) :
    Dialogue (Closure.Shallow depth) id (Value.Every (Closure.Shallow depth)) (call.run host) := by
  obtain ⟨hself, hcontext⟩ := closure_every_iff.mp h.1
  exact run_dialogue hself.standard (hcontext.with_captures h.2)
    fun _ hbody origin => hself.inner hbody origin

/-! ## Greater budgets -/

/-- Calls of shallow closures have shallow values. -/
theorem invoke_within_keeps (budget : Nat) :
    (invokeWithin host budget).Keeps (Closure.Shallow depth) := by
  induction budget with
  | zero => exact fun _ _ _ h => nomatch h
  | succ budget ih =>
      intro call hcall value h
      rw [answer_invoke_within_succ] at h
      exact (Invocation.run_dialogue_of_shallow hcall).keeps ih h

/-- A greater budget answers whatever a smaller one answers. -/
theorem invoke_within_extends {less more : Nat} (h : less ≤ more) :
    (invokeWithin host less).Extends (Closure.Shallow depth) (invokeWithin host more) := by
  induction less generalizing more with
  | zero => exact fun _ _ hne => absurd rfl hne
  | succ less ih =>
      obtain ⟨more, rfl⟩ : ∃ before, more = before + 1 := ⟨more - 1, by omega⟩
      intro call hcall hne
      rw [answer_invoke_within_succ] at hne ⊢
      exact (Invocation.run_dialogue_of_shallow hcall).mono (invoke_within_keeps less)
        (ih (by omega)) hne

/-- Without a bound on the budget, a call is answered as under any budget that answers it. -/
theorem extends_unbounded (budget : Nat) :
    (invokeWithin host budget).Extends (Closure.Shallow depth) (.unbounded host) := by
  intro call hcall hne
  have hsome : ∃ budget, call.answer (invokeWithin host budget) ≠ .error .exhausted :=
    ⟨budget, hne⟩
  have hchoice : call.answer (.unbounded host) =
      call.answer (invokeWithin host hsome.choose) := dif_pos hsome
  rw [hchoice]
  rcases Nat.le_total budget hsome.choose with hle | hle
  · exact invoke_within_extends hle call hcall hne
  · exact (invoke_within_extends hle call hcall hsome.choose_spec).symm

/-- A call that no budget answers is not answered without a bound either. -/
theorem answer_unbounded_of_unanswered {call : Invocation}
    (h : ∀ budget, call.answer (invokeWithin host budget) = .error .exhausted) :
    call.answer (.unbounded host) = .error .exhausted :=
  dif_neg fun ⟨budget, hne⟩ => hne (h budget)

/-- Without a bound on the budget, calls of shallow closures have shallow values. -/
theorem unbounded_keeps : (Invoke.unbounded host).Keeps (Closure.Shallow depth) := by
  intro call hcall value h
  by_cases hsome : ∃ budget, call.answer (invokeWithin host budget) ≠ .error .exhausted
  · obtain ⟨budget, hne⟩ := hsome
    rw [extends_unbounded budget call hcall hne] at h
    exact invoke_within_keeps budget call hcall value h
  · rw [answer_unbounded_of_unanswered fun budget => by_contra fun hne => hsome ⟨budget, hne⟩] at h
    cases h

/-! ## Calls without an answer -/

/-- A dialogue that no budget is enough for has made a call that no budget is enough for. -/
theorem Dialogue.exists_unanswered {Q : α → Prop} {run : Invoke → Except Halt α}
    (hrun : Dialogue (Closure.Shallow depth) id Q run)
    (h : ∀ budget, run (invokeWithin host budget) = .error .exhausted) :
    ∃ call, Makes run (.unbounded host) call ∧
      ∀ budget, call.answer (invokeWithin host budget) = .error .exhausted := by
  induction hrun with
  | settled result _ hne => exact absurd (h 0) hne
  | asked first next hfirst hnext ih =>
      by_cases hsome : ∃ budget, first.answer (invokeWithin host budget) ≠ .error .exhausted
      · obtain ⟨enough, hne⟩ := hsome
        have hlater : ∀ budget, enough ≤ budget → first.answer (invokeWithin host budget) =
            first.answer (invokeWithin host enough) := fun budget hle =>
          invoke_within_extends hle first hfirst hne
        have hunbounded := extends_unbounded enough first hfirst hne
        cases hanswer : first.answer (invokeWithin host enough) with
        | error halt =>
            have hhalt := h enough
            simp only [hanswer, id] at hhalt
            exact absurd (hanswer.trans (congrArg _ (Except.error.inj hhalt))) hne
        | ok value =>
            have hvalue : value.Every (Closure.Shallow depth) :=
              invoke_within_keeps enough first hfirst value hanswer
            obtain ⟨call, hmakes, hcall⟩ := ih value hvalue fun budget => by
              by_contra hsettled
              -- With the greater of the two budgets the first call is answered as well.
              have hmax := h (max budget enough)
              simp only [hlater _ (Nat.le_max_right budget enough), hanswer] at hmax
              rw [(hnext value hvalue).mono (invoke_within_keeps budget)
                (invoke_within_extends (Nat.le_max_left budget enough)) hsettled] at hmax
              exact hsettled hmax
            refine ⟨call, fun halt => ?_, hcall⟩
            by_cases heq : first = call
            · simp only [heq, Invoke.answer_halting_self, id]
            · simp only [Invoke.answer_halting_of_ne heq, hunbounded, hanswer]
              exact hmakes halt
      · have hfirst : ∀ budget, first.answer (invokeWithin host budget) = .error .exhausted :=
          fun budget => by_contra fun hne => hsome ⟨budget, hne⟩
        refine ⟨first, fun halt => ?_, hfirst⟩
        simp only [Invoke.answer_halting_self, id]

/-- A dialogue that makes a call without an answer has no outcome under that budget. -/
theorem Dialogue.exhausted_of_makes {Q : α → Prop} {run : Invoke → Except Halt α}
    (hrun : Dialogue (Closure.Shallow depth) id Q run) {call : Invocation}
    (hmakes : Makes run (.unbounded host) call) {budget : Nat}
    (hcall : call.answer (invokeWithin host budget) = .error .exhausted) :
    run (invokeWithin host budget) = .error .exhausted := by
  by_contra hne
  -- However the call is halted, the evaluation would keep its outcome.
  have hextends : ∀ halt, (invokeWithin host budget).Extends (Closure.Shallow depth)
      ((Invoke.unbounded host).halting call halt) := by
    intro halt other hother hanswer
    have hdistinct : other ≠ call := fun heq => hanswer (heq ▸ hcall)
    rw [Invoke.answer_halting_of_ne hdistinct]
    exact extends_unbounded budget other hother hanswer
  have hsame : ∀ halt, .error halt = run (invokeWithin host budget) := fun halt =>
    (hmakes halt).symm.trans (hrun.mono (invoke_within_keeps budget) (hextends halt) hne)
  have hone := (hsame (.fault .missingFunctionName)).trans (hsame (.fault (.lambdaArity 0))).symm
  cases hone

/-- The calls of an endless chain are calls of shallow closures. -/
theorem Endless.every_shallow {Q : α → Prop} {run : Invoke → Except Halt α}
    (hrun : Dialogue (Closure.Shallow depth) id Q run) {chain : Nat → Invocation}
    (h : Endless host run chain) (n : Nat) : (chain n).Every (Closure.Shallow depth) := by
  induction n with
  | zero => exact hrun.every_of_makes unbounded_keeps h.first
  | succ n ih =>
      exact (Invocation.run_dialogue_of_shallow ih).every_of_makes unbounded_keeps (h.next n)

/-- No budget is enough for the calls of an endless chain. -/
theorem Endless.unanswered {Q : α → Prop} {run : Invoke → Except Halt α}
    (hrun : Dialogue (Closure.Shallow depth) id Q run) {chain : Nat → Invocation}
    (h : Endless host run chain) (budget n : Nat) :
    (chain n).answer (invokeWithin host budget) = .error .exhausted := by
  induction budget generalizing n with
  | zero => rfl
  | succ budget ih =>
      rw [answer_invoke_within_succ]
      exact (Invocation.run_dialogue_of_shallow (h.every_shallow hrun n)).exhausted_of_makes
        (h.next n) (ih (n + 1))

/-- A dialogue that no budget is enough for begins an endless chain. -/
theorem Dialogue.exists_endless {Q : α → Prop} {run : Invoke → Except Halt α}
    (hrun : Dialogue (Closure.Shallow depth) id Q run)
    (h : ∀ budget, run (invokeWithin host budget) = .error .exhausted) :
    ∃ chain, Endless host run chain := by
  obtain ⟨first, hfirst, hunanswered⟩ := hrun.exists_unanswered h
  have hshallow := hrun.every_of_makes unbounded_keeps hfirst
  -- An unanswered call of a shallow closure makes another one, which goes on for ever.
  let Stuck := { call : Invocation // call.Every (Closure.Shallow depth) ∧
    ∀ budget, call.answer (invokeWithin host budget) = .error .exhausted }
  have hnext : ∀ call : Stuck, ∃ later : Stuck,
      Makes (call.1.run host) (.unbounded host) later.1 := by
    rintro ⟨call, hcall, hstuck⟩
    have hbody : Dialogue (Closure.Shallow depth) id _ (call.run host) :=
      Invocation.run_dialogue_of_shallow hcall
    obtain ⟨later, hmakes, hlater⟩ := hbody.exists_unanswered fun budget =>
      hstuck (budget + 1)
    exact ⟨⟨later, hbody.every_of_makes unbounded_keeps hmakes, hlater⟩, hmakes⟩
  choose next hmakes using hnext
  let chain : Nat → Stuck :=
    fun n => Nat.rec ⟨first, hshallow, hunanswered⟩ (fun _ call => next call) n
  exact ⟨fun n => (chain n).1, hfirst, fun n => hmakes (chain n)⟩

/-- In an endless chain, closures are handed to closures again and again: otherwise each closure
would come from a lambda within the body of the one before. -/
theorem Endless.exists_hands_closure {Q : α → Prop} {run : Invoke → Except Halt α}
    (hrun : Dialogue (Closure.Shallow depth) id Q run) {chain : Nat → Invocation}
    (h : Endless host run chain) (n : Nat) : ∃ m, n ≤ m ∧ (chain m).HandsClosure := by
  by_contra hnone
  have hfree : ∀ m, n ≤ m → ∀ arg ∈ (chain m).args, arg.ClosureFree := fun m hle arg harg =>
    by_contra fun hclosure => hnone ⟨m, hle, arg, harg, hclosure⟩
  have hdescends : ∀ m, n ≤ m → Expr.lambdaDepthOfAll (chain (m + 1)).closure.body <
      Expr.lambdaDepthOfAll (chain m).closure.body := by
    intro m hle
    obtain ⟨hself, _⟩ := closure_every_iff.mp (h.every_shallow hrun m).1
    have hplain := hself.plain _ (hfree m hle)
    have hbody : Dialogue (Closure.Shallow (Expr.lambdaDepthOfAll (chain m).closure.body)) id _
        ((chain m).run host) :=
      Invocation.run_dialogue hself.standard hplain.every fun body hbody origin =>
        { hself.inner hbody origin with lambdas := lambda_depth_lt_of_all _ hbody }
    exact (closure_every_iff.mp (hbody.every_of_makes unbounded_keeps (h.next m)).1).1.lambdas
  have hbound : ∀ k, Expr.lambdaDepthOfAll (chain (n + k)).closure.body + k ≤
      Expr.lambdaDepthOfAll (chain n).closure.body := by
    intro k
    induction k with
    | zero => exact Nat.le_refl _
    | succ k ih =>
        have hstep := hdescends (n + k) (Nat.le_add_right n k)
        rw [Nat.add_assoc] at hstep
        omega
  have hfinal := hbound (Expr.lambdaDepthOfAll (chain n).closure.body + 1)
  omega

/-! ## A closure that is handed to itself -/

/-- The body of a lambda that calls its argument on itself: `map([&1], &1)`. -/
def selfApplication : List Expr :=
  [.function "map" [.list [.capture 1], .capture 1]]

/-- The first argument of the lambda that is being called. -/
theorem capture_one_with_captures (context : Context) (arg : Value) (args : List Value) :
    (context.withCaptures (arg :: args)).capture 1 = arg := by
  rw [Context.capture, Context.get?_with_captures_self]
  rfl

/-- The standard library knows `map` by its name. -/
theorem of_name_map : StandardFunction.ofName? "map" = some .map := by
  decide +kernel

/-- Calling a closure on one item calls it once. -/
theorem standard_map_single (invoke : Invoke) (item : Value) (closure : Closure)
    (context : Context) (origin : Origin) :
    Library.standard invoke ⟨"map", [.list [item], .closure closure], context, origin⟩ =
      match invoke closure [item] (0 :: origin) with
      | .ok value => .ok (.list [value])
      | .error halt => .error (.halted halt) := by
  simp only [Library.standard, of_name_map, StandardFunction.answer, StandardFunction.elementsOf?,
    StandardFunction.mapItems, Call.invoke]
  cases invoke closure [item] (0 :: origin) <;> rfl

/-- No budget is enough to apply a lambda that applies its argument to itself to its like. -/
theorem self_application_unanswered (budget : Nat) {closure arg : Closure}
    (hclosure : closure.body = selfApplication ∧ closure.resolver = .standard ∧
      3 ≤ closure.maxDepth)
    (harg : arg.body = selfApplication ∧ arg.resolver = .standard ∧ 3 ≤ arg.maxDepth)
    (origin : Origin) :
    invokeWithin host budget closure [.closure arg] origin = .error .exhausted := by
  induction budget generalizing closure arg origin with
  | zero => rfl
  | succ budget ih =>
      obtain ⟨hbody, hresolver, hdepth⟩ := hclosure
      have hzero : ¬ closure.maxDepth ≤ 0 := by omega
      have hone : ¬ closure.maxDepth ≤ 1 := by omega
      have htwo : ¬ closure.maxDepth ≤ 2 := by omega
      have hname : "map".isEmpty = false := by decide
      simp only [invokeWithin, hbody, selfApplication, Scope.evalSegments, Scope.evalAt, hzero,
        if_false, hname, Scope.evalAllAt, Nat.zero_add, Nat.reduceAdd, hone, htwo,
        capture_one_with_captures, Scope.call, hresolver, Resolver.library]
      simp only [pure, Except.pure, bind, Except.bind, Bool.false_eq_true, if_false,
        standard_map_single, ih harg harg, CallError.message]

/-- The template that hands a lambda that applies its argument to itself to its like. -/
def selfApplicationTemplate : Template :=
  [.function "map" [.list [.lambda selfApplication], .lambda selfApplication]]

/-- No budget is enough for the template of self-application. -/
theorem self_application_exhausted {maxDepth : Nat} (hdepth : 3 ≤ maxDepth) (origin : Origin)
    (budget : Nat) :
    Scope.evalTemplate ⟨.empty, .standard, maxDepth⟩ host budget origin selfApplicationTemplate =
      .error .exhausted := by
  have hzero : ¬ maxDepth ≤ 0 := by omega
  have hone : ¬ maxDepth ≤ 1 := by omega
  have htwo : ¬ maxDepth ≤ 2 := by omega
  have hname : "map".isEmpty = false := by decide
  simp only [Scope.evalTemplate, Calls.within, selfApplicationTemplate, Scope.evalSegments,
    Scope.evalAt, hzero, if_false, hname, Scope.evalAllAt, Nat.zero_add, Nat.reduceAdd, hone, htwo,
    Scope.call, Resolver.library]
  simp only [pure, Except.pure, bind, Except.bind, Bool.false_eq_true, if_false,
    standard_map_single, CallError.message]
  rw [self_application_unanswered budget ⟨rfl, rfl, hdepth⟩ ⟨rfl, rfl, hdepth⟩]

/-! ## Whole evaluations -/

/-- In a context without closures, the evaluation of a template is a dialogue. -/
theorem evaluation_dialogue {context : Context} (hcontext : context.ClosureFree) (maxDepth : Nat)
    (origin : Origin) (template : Template) :
    Dialogue (Closure.Shallow (Expr.lambdaDepthOfAll template)) id
      (fun values : List Value => ∀ value ∈ values,
        value.Every (Closure.Shallow (Expr.lambdaDepthOfAll template)))
      (Scope.evaluation ⟨context, .standard, maxDepth⟩ host origin template) :=
  Scope.eval_segments_dialogue rfl hcontext.every origin 0 fun _ hbody _ =>
    { standard := rfl
      plain := fun _ hargs => hcontext.with_captures hargs
      lambdas := lambda_depth_lt_of_all _ hbody }

/-- In a context without closures, the evaluation of a template finishes exactly if it does not
begin an endless chain of calls; and in such a chain closures are handed to closures again and
again. -/
theorem finishes_iff_not_endless (host : Host) {context : Context}
    (hcontext : context.ClosureFree) (maxDepth : Nat) (origin : Origin) (template : Template) :
    (Scope.Finishes ⟨context, .standard, maxDepth⟩ host origin template ↔
      ¬ ∃ chain,
        Endless host (Scope.evaluation ⟨context, .standard, maxDepth⟩ host origin template) chain) ∧
    ∀ chain,
      Endless host (Scope.evaluation ⟨context, .standard, maxDepth⟩ host origin template) chain →
      ∀ n, ∃ m, n ≤ m ∧ (chain m).HandsClosure := by
  have hrun : Dialogue _ id _
      (Scope.evaluation ⟨context, .standard, maxDepth⟩ host origin template) :=
    evaluation_dialogue hcontext maxDepth origin template
  refine ⟨⟨?_, fun hnone => ?_⟩, fun chain h => h.exists_hands_closure hrun⟩
  · rintro ⟨outcome, hne, enough, houtcome⟩ ⟨chain, hchain⟩
    refine hne ((houtcome enough (Nat.le_refl _)).symm.trans ?_)
    exact hrun.exhausted_of_makes hchain.first (hchain.unanswered hrun enough 0)
  · by_contra hunfinished
    refine hnone (hrun.exists_endless fun budget => ?_)
    by_contra hne
    refine hunfinished ⟨_, hne, budget, fun more hle => ?_⟩
    exact hrun.mono (invoke_within_keeps budget) (invoke_within_extends hle) hne

/-- The template of self-application begins an endless chain that hands over closures again and
again. -/
theorem self_application_begins_endless_chain :
    Context.empty.ClosureFree ∧
    ∃ chain, Endless (fun _ => .standard)
        (Scope.evaluation ⟨.empty, .standard, 1000⟩ (fun _ => .standard) []
          selfApplicationTemplate) chain ∧
      ∀ n, ∃ m, n ≤ m ∧ (chain m).HandsClosure := by
  have hempty : Context.empty.ClosureFree := trivial
  obtain ⟨hiff, hhands⟩ :=
    finishes_iff_not_endless (fun _ => .standard) hempty 1000 [] selfApplicationTemplate
  have hunfinished : ¬ Scope.Finishes ⟨.empty, .standard, 1000⟩ (fun _ => .standard) []
      selfApplicationTemplate := by
    rintro ⟨outcome, hne, enough, houtcome⟩
    exact hne ((houtcome enough (Nat.le_refl _)).symm.trans
      (self_application_exhausted (by decide) [] enough))
  obtain ⟨chain, hchain⟩ := not_not.mp fun hnone => hunfinished (hiff.mpr hnone)
  exact ⟨hempty, chain, hchain, hhands chain hchain⟩

/-- The template of self-application can be written down, and whatever the limit on nesting, no
budget is enough for its evaluation: the limit does not bound every evaluation. -/
theorem self_application_never_finishes :
    Template.parse "@map([&(map([&1], &1))], &(map([&1], &1)))" = .ok selfApplicationTemplate ∧
    Context.empty.ClosureFree ∧
    ∀ (host : Host) (maxDepth : Nat) (origin : Origin), 3 ≤ maxDepth →
      ¬ Scope.Finishes ⟨.empty, .standard, maxDepth⟩ host origin selfApplicationTemplate := by
  refine ⟨by cbv, trivial, fun host maxDepth origin hdepth => ?_⟩
  rintro ⟨outcome, hne, enough, houtcome⟩
  exact hne ((houtcome enough (Nat.le_refl _)).symm.trans
    (self_application_exhausted hdepth origin enough))

/-! ## What the limit bounds -/

/-- A call comes to the same, and makes the same calls, whatever its body holds below the levels that
the limit leaves to the call. -/
theorem Invocation.run_up_to (call : Invocation) :
    let body := Expr.allUpTo call.closure.maxDepth call.closure.body
    Invocation.run host { call with closure := { call.closure with body := body } } =
      call.run host := by
  funext invoke
  rw [run, run, ← Scope.eval_segments_up_to call.origin 0 call.closure.body]

/-- An evaluation begins the same chains of calls, whatever the template holds below the levels that
the limit leaves to it. -/
theorem Scope.evaluation_up_to (scope : Scope) (origin : Origin) (template : Template) :
    scope.evaluation host origin (Expr.allUpTo scope.maxDepth template) =
      scope.evaluation host origin template :=
  funext fun _ => scope.eval_segments_up_to origin 0 template

end TextTemplate
