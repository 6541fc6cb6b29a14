import TextTemplate.Proofs.Eval.Dialogue

/-!
# The evaluator is a dialogue

Where the standard library answers all calls of functions, evaluating a tree is a dialogue with the
closures that it calls. The main statement is `eval_segments_dialogue`; `run_dialogue` says the same
of the body of a closure.
-/

namespace TextTemplate

variable {P : Closure → Prop}

namespace StandardFunction

/-- A function other than `map` has a value within its arguments and calls no closure. -/
theorem answer_every {function : StandardFunction} {invoke : Invoke} {call : Call}
    (hmap : function ≠ .map) (hargs : ∀ arg ∈ call.args, arg.Every P) {value : Value}
    (h : function.answer invoke call = .ok value) : value.Every P := by
  -- `upper` and `lower` only differ in what they do to the text.
  have htext : ∀ {arg : Value} {change : String → String},
      (do let text ← textArg call arg; pure (Value.str (change text)) : Except CallError Value) =
        .ok value → value.Every P := by
    intro arg change h
    cases htext : textArg call arg with
    | ok text =>
        rw [htext] at h
        cases h
        trivial
    | error reason =>
        rw [htext] at h
        cases h
  cases function with
  | map => exact absurd rfl hmap
  | choose =>
      rw [answer] at h
      split at h
      · next condition yes no heq =>
          cases h
          split
          · exact hargs yes (by simp [heq])
          · exact hargs no (by simp [heq])
      · cases h
  | all | any =>
      rw [answer] at h
      split at h <;> cases h
      trivial
  | negate =>
      rw [answer] at h
      split at h <;> cases h
      trivial
  | upper | lower =>
      rw [answer] at h
      split at h
      · exact htext h
      · cases h
  | len =>
      rw [answer] at h
      split at h
      · split at h <;> cases h
        trivial
      · cases h
  | concatenate =>
      cases h
      trivial

/-- A function other than `map` does not halt an evaluation. -/
theorem answer_ne_halted {function : StandardFunction} {invoke : Invoke} {call : Call}
    (hmap : function ≠ .map) (halt : Halt) :
    function.answer invoke call ≠ .error (.halted halt) := by
  have htext : ∀ {arg : Value} {change : String → String},
      (do let text ← textArg call arg; pure (Value.str (change text)) : Except CallError Value) ≠
        .error (.halted halt) := by
    intro arg change
    cases arg <;> exact nofun
  cases function with
  | map => exact absurd rfl hmap
  | choose | negate =>
      rw [answer]
      split <;> exact nofun
  | all | any =>
      rw [answer]
      split <;> exact nofun
  | upper | lower =>
      rw [answer]
      split
      · exact htext
      · exact nofun
  | len =>
      rw [answer]
      split
      · split <;> exact nofun
      · exact nofun
  | concatenate => exact nofun

/-- The elements of a value are within the value. -/
theorem elements_every {collection : Value} {items : List Value} (h : collection.Every P)
    (hitems : elementsOf? collection = some items) : ∀ item ∈ items, item.Every P := by
  cases collection with
  | list members =>
      cases hitems
      exact every_list.mp h
  | range range =>
      cases hitems
      intro item hitem
      obtain ⟨member, _, rfl⟩ := List.mem_map.mp hitem
      trivial
  | _ => cases hitems

/-- Calling a closure on each item is a dialogue of one call for each. -/
theorem map_items_dialogue {call : Call} {closure : Closure} (hclosure : closure.Every P)
    {items : List Value} (hitems : ∀ item ∈ items, item.Every P) (step : Nat) :
    Dialogue P .halted (fun values : List Value => ∀ value ∈ values, value.Every P)
      fun invoke => mapItems invoke call closure step items := by
  induction items generalizing step with
  | nil => exact .value (by simp)
  | cons item items ih =>
      have hone : Dialogue P CallError.halted (Value.Every P) fun invoke =>
          call.invoke invoke step closure [item] :=
        .asked ⟨closure, [item], step :: call.origin⟩ (fun value _ => .ok value)
          ⟨hclosure, by simpa using hitems item List.mem_cons_self⟩ fun _ hvalue => .value hvalue
      refine hone.bind fun value hvalue => ?_
      refine (ih (fun item hitem => hitems item (List.mem_cons_of_mem _ hitem)) (step + 1)).bind
        fun values hvalues => ?_
      exact .value (List.forall_mem_cons.mpr ⟨hvalue, hvalues⟩)

/-- A call of `map` is a dialogue with the closure that is its second argument. -/
theorem map_dialogue {call : Call} (hargs : ∀ arg ∈ call.args, arg.Every P) :
    Dialogue P .halted (Value.Every P) fun invoke => answer invoke call .map := by
  rcases hcall : call.args with _ | ⟨collection, _ | ⟨function, _ | ⟨_, _⟩⟩⟩
  case cons.cons.nil =>
    have hfunction : function.Every P := hargs function (by simp [hcall])
    cases function with
    | closure closure =>
        cases hitems : StandardFunction.elementsOf? collection with
        | some items =>
            have hmembers := elements_every (hargs collection (by simp [hcall])) hitems
            simp only [answer, hcall, hitems]
            exact (map_items_dialogue (every_closure.mp hfunction) hmembers 0).bind
              fun values hvalues => .value (every_list.mpr hvalues)
        | none =>
            simp only [answer, hcall, hitems]
            exact .error nofun
    | _ =>
        simp only [answer, hcall]
        exact .error nofun
  all_goals
    simp only [answer, hcall]
    exact .error nofun

end StandardFunction

/-- A call of the standard library is a dialogue with the closures among its arguments. -/
theorem standard_dialogue {call : Call} (hargs : ∀ arg ∈ call.args, arg.Every P) :
    Dialogue P .halted (Value.Every P) fun invoke => Library.standard invoke call := by
  cases hname : StandardFunction.ofName? call.name with
  | none =>
      simp only [Library.standard, hname]
      exact .error nofun
  | some function =>
      simp only [Library.standard, hname]
      by_cases hmap : function = .map
      · exact hmap ▸ StandardFunction.map_dialogue hargs
      · -- Only `map` looks at how calls are answered.
        have hsame : ∀ invoke : Invoke, function.answer invoke call =
            function.answer (fun _ _ _ => .error .exhausted) call := by
          intro invoke
          cases function <;> first | rfl | exact absurd rfl hmap
        simp only [hsame]
        exact .settled _ (fun _ h => StandardFunction.answer_every hmap hargs h)
          (StandardFunction.answer_ne_halted hmap _)

/-- Showing why a call failed keeps a dialogue a dialogue. -/
theorem Dialogue.shown {run : Invoke → Except CallError Value}
    (h : Dialogue P .halted (Value.Every P) run) :
    Dialogue P id (Value.Every P) fun invoke =>
      match run invoke with
      | .ok value => .ok value
      | .error error =>
        match error.message with
        | .ok message => .ok (.str ("ERROR: " ++ message))
        | .error halt => .error halt := by
  induction h with
  | settled result hresult hne =>
      cases result with
      | ok value => exact .value (hresult value rfl)
      | error reason =>
          cases reason with
          | halted halt => exact .error fun heq => hne (heq ▸ rfl)
          | _ => exact .value trivial
  | asked call next hcall _ ih =>
      convert Dialogue.asked call _ hcall ih using 2 with invoke
      dsimp only
      cases call.answer invoke <;> rfl

namespace Scope

variable {host : Host} {scope : Scope}

/-- A function call is a dialogue with the closures among its arguments. -/
theorem call_dialogue (hstandard : scope.resolver = .standard) {args : List Value}
    (hargs : ∀ arg ∈ args, arg.Every P) (origin : Origin) (name : String) :
    Dialogue P id (Value.Every P) fun invoke => scope.call ⟨host, invoke⟩ origin name args := by
  simp only [call, hstandard, Resolver.library]
  exact (standard_dialogue hargs).shown

/-- Asking for a bound makes no call. -/
theorem bound_dialogue (value : Value) :
    Dialogue P id (fun _ => True) fun _ => boundOf value := by
  cases value with
  | int value => exact .value trivial
  | _ => exact .fault _

/-- The property of anything but a variable is looked up in its value. -/
theorem eval_at_property {calls : Calls} {depth : Nat} {origin : Origin} {subject : Expr}
    {key : String} (hdepth : ¬ scope.maxDepth ≤ depth) (hsubject : ∀ name, subject ≠ .atom name) :
    scope.evalAt calls depth origin (.property subject key) = (do
      let value ← scope.evalAt calls (depth + 1) (0 :: origin) subject
      pure (value.lookup key)) := by
  rw [evalAt.eq_def, if_neg hdepth]
  cases subject with
  | atom name => exact absurd rfl (hsubject name)
  | _ => rfl

mutual
/-- Evaluating a tree is a dialogue, provided that the lambdas of the tree become closures with
`P`. -/
theorem eval_at_dialogue (hstandard : scope.resolver = .standard) (hcontext : scope.context.Every P)
    (depth : Nat) (origin : Origin) : (expr : Expr) →
    (∀ body ∈ expr.lambdas, ∀ origin,
      P ⟨scope.context, body, scope.resolver, scope.maxDepth, origin⟩) →
    Dialogue P id (Value.Every P) fun invoke => scope.evalAt ⟨host, invoke⟩ depth origin expr
  | expr, hlambdas => by
      by_cases hdepth : scope.maxDepth ≤ depth
      · -- Below the limit the tree is not looked at.
        have hfault : ∀ invoke : Invoke, scope.evalAt ⟨host, invoke⟩ depth origin expr =
            .error (.fault (.stackOverflow depth scope.maxDepth)) := by
          intro invoke
          rw [evalAt.eq_def, if_pos hdepth]
        simp only [hfault]
        exact .fault _
      · cases expr with
        | text content =>
            simp only [evalAt, hdepth, if_false]
            exact .value trivial
        | literal literal =>
            simp only [evalAt, hdepth, if_false]
            exact .value (literal_every literal)
        | atom name =>
            simp only [evalAt, hdepth, if_false]
            exact .value (hcontext.get?_getD name)
        | property subject key =>
            -- A variable is not evaluated for its property, which shows itself where it is missing.
            by_cases hatom : ∃ name, subject = .atom name
            · obtain ⟨name, rfl⟩ := hatom
              simp only [evalAt, hdepth, if_false]
              exact .value (hcontext.variable_property name key)
            · simp only [eval_at_property hdepth fun name heq => hatom ⟨name, heq⟩]
              exact (eval_at_dialogue hstandard hcontext _ _ subject hlambdas).bind
                fun value hvalue => .value (hvalue.lookup key)
        | access subject index =>
            simp only [evalAt, hdepth, if_false]
            refine (eval_at_dialogue hstandard hcontext _ _ subject fun body hbody =>
              hlambdas body (List.mem_append_left _ hbody)).bind fun value hvalue => ?_
            exact (eval_at_dialogue hstandard hcontext _ _ index fun body hbody =>
              hlambdas body (List.mem_append_right _ hbody)).bind
                fun place _ => .value (hvalue.access place)
        | function name args =>
            simp only [evalAt, hdepth, if_false]
            split
            · exact .fault _
            · exact (eval_all_at_dialogue hstandard hcontext _ _ 0 args hlambdas).bind
                fun values hvalues => call_dialogue hstandard hvalues _ _
        | lambda body =>
            simp only [evalAt, hdepth, if_false]
            refine .value (every_closure.mpr (closure_every_iff.mpr ⟨?_, hcontext⟩))
            exact hlambdas body (List.mem_singleton.mpr rfl) origin
        | capture index =>
            simp only [evalAt, hdepth, if_false]
            exact .value (hcontext.capture index)
        | range start stop step =>
            simp only [evalAt, hdepth, if_false]
            -- Each bound is looked at before the next one is evaluated.
            refine (eval_at_dialogue hstandard hcontext _ _ start fun body hbody =>
              hlambdas body (List.mem_append_left _ hbody)).bind fun first _ => ?_
            refine (bound_dialogue first).bind fun first _ => ?_
            refine (eval_at_dialogue hstandard hcontext _ _ stop fun body hbody =>
              hlambdas body (List.mem_append_right _ (List.mem_append_left _ hbody))).bind
                fun last _ => ?_
            refine (bound_dialogue last).bind fun last _ => ?_
            refine (eval_step_at_dialogue hstandard hcontext _ _ step fun body hbody =>
              hlambdas body (List.mem_append_right _ (List.mem_append_right _ hbody))).bind
                fun stride _ => ?_
            rw [rangeOf]
            split
            · exact .fault _
            · exact .value trivial
        | list items =>
            simp only [evalAt, hdepth, if_false]
            exact (eval_all_at_dialogue hstandard hcontext _ _ 0 items hlambdas).bind
              fun values hvalues => .value (every_list.mpr hvalues)
        | binary op left right =>
            simp only [evalAt, hdepth, if_false]
            refine (eval_at_dialogue hstandard hcontext _ _ left fun body hbody =>
              hlambdas body (List.mem_append_left _ hbody)).bind fun first _ => ?_
            refine (eval_at_dialogue hstandard hcontext _ _ right fun body hbody =>
              hlambdas body (List.mem_append_right _ hbody)).bind fun second _ => ?_
            rw [applyOp]
            split
            · next value hvalue => exact .value (apply_every hvalue)
            · exact .fault _

/-- Evaluating trees in their order is a dialogue. -/
theorem eval_all_at_dialogue (hstandard : scope.resolver = .standard)
    (hcontext : scope.context.Every P) (depth : Nat) (origin : Origin) (index : Nat) :
    (exprs : List Expr) →
    (∀ body ∈ Expr.lambdasOfAll exprs, ∀ origin,
      P ⟨scope.context, body, scope.resolver, scope.maxDepth, origin⟩) →
    Dialogue P id (fun values : List Value => ∀ value ∈ values, value.Every P)
      fun invoke => scope.evalAllAt ⟨host, invoke⟩ depth origin index exprs
  | [], _ => by
      simp only [evalAllAt]
      exact .value (by simp)
  | expr :: exprs, hlambdas => by
      simp only [evalAllAt]
      refine (eval_at_dialogue hstandard hcontext _ _ expr fun body hbody =>
        hlambdas body (List.mem_append_left _ hbody)).bind fun value hvalue => ?_
      refine (eval_all_at_dialogue hstandard hcontext _ _ (index + 1) exprs fun body hbody =>
        hlambdas body (List.mem_append_right _ hbody)).bind fun values hvalues => ?_
      exact .value (List.forall_mem_cons.mpr ⟨hvalue, hvalues⟩)

/-- Evaluating the step of a range is a dialogue. -/
theorem eval_step_at_dialogue (hstandard : scope.resolver = .standard)
    (hcontext : scope.context.Every P) (depth : Nat) (origin : Origin) :
    (step : Option Expr) →
    (∀ body ∈ Expr.lambdasOfStep step, ∀ origin,
      P ⟨scope.context, body, scope.resolver, scope.maxDepth, origin⟩) →
    Dialogue P id (fun _ => True) fun invoke => scope.evalStepAt ⟨host, invoke⟩ depth origin step
  | none, _ => by
      simp only [evalStepAt]
      exact .value trivial
  | some expr, hlambdas => by
      simp only [evalStepAt]
      exact (eval_at_dialogue hstandard hcontext _ _ expr hlambdas).bind
        fun value _ => bound_dialogue value
end

/-- Evaluating the segments of a template is a dialogue. -/
theorem eval_segments_dialogue (hstandard : scope.resolver = .standard)
    (hcontext : scope.context.Every P) (origin : Origin) (index : Nat) {exprs : List Expr}
    (hlambdas : ∀ body ∈ Expr.lambdasOfAll exprs, ∀ origin,
      P ⟨scope.context, body, scope.resolver, scope.maxDepth, origin⟩) :
    Dialogue P id (fun values : List Value => ∀ value ∈ values, value.Every P)
      fun invoke => scope.evalSegments ⟨host, invoke⟩ origin index exprs := by
  induction exprs generalizing index with
  | nil =>
      simp only [evalSegments]
      exact .value (by simp)
  | cons expr exprs ih =>
      simp only [evalSegments]
      refine (eval_at_dialogue hstandard hcontext _ _ expr fun body hbody =>
        hlambdas body (List.mem_append_left _ hbody)).bind fun value hvalue => ?_
      refine (ih (index + 1) fun body hbody =>
        hlambdas body (List.mem_append_right _ hbody)).bind fun values hvalues => ?_
      exact .value (List.forall_mem_cons.mpr ⟨hvalue.unwrapped, hvalues⟩)

end Scope

end TextTemplate
