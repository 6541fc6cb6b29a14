import TextTemplate.Library.Samples
import TextTemplate.Proofs.Eval.Outlasts

/-!
# Evaluations in other places

Origins only tell closures apart. Where a tree is evaluated as a step of `path ++ base` instead of
`base`, it therefore has the same value, except that the closures within it that are made by the
evaluation are made there (`Scope.eval_at_relocated`). The libraries of the host application have to
leave origins alone for that (`Library.IgnoresOrigins`), which the standard library does.
-/

namespace TextTemplate

/-! ## Relocated origins -/

namespace Origin

/-- The origin of what is made as `origin` while `base` takes place at `path ++ base` instead: what
is a step of `base` is the same step there, and all else is where it was. -/
def relocated (base path origin : Origin) : Origin :=
  if base <:+ origin then origin.take (origin.length - base.length) ++ (path ++ base) else origin

variable {base origin : Origin}

theorem relocated_append (base path turns : Origin) :
    relocated base path (turns ++ base) = turns ++ (path ++ base) := by
  rw [relocated, if_pos (List.suffix_append turns base), List.length_append, Nat.add_sub_cancel,
    List.take_left]

theorem relocated_of_not_suffix (path : Origin) (h : ¬ base <:+ origin) :
    relocated base path origin = origin :=
  if_neg h

/-- What is a step of `base` still is one, and nothing else becomes one. -/
theorem suffix_relocated_iff (base path origin : Origin) :
    base <:+ relocated base path origin ↔ base <:+ origin := by
  by_cases h : base <:+ origin
  · obtain ⟨turns, rfl⟩ := h
    rw [relocated_append, ← List.append_assoc]
    exact iff_of_true (List.suffix_append _ _) (List.suffix_append _ _)
  · rw [relocated_of_not_suffix path h]

/-- Different origins stay different. -/
theorem relocated_injective (base path : Origin) :
    Function.Injective (relocated base path) := by
  intro first second heq
  have hiff : base <:+ first ↔ base <:+ second := by
    rw [← suffix_relocated_iff base path first, heq, suffix_relocated_iff]
  by_cases hfirst : base <:+ first
  · obtain ⟨turns, rfl⟩ := hfirst
    obtain ⟨others, rfl⟩ := hiff.mp (List.suffix_append turns base)
    rw [relocated_append, relocated_append] at heq
    rw [List.append_cancel_right heq]
  · rwa [relocated_of_not_suffix path hfirst,
      relocated_of_not_suffix path fun hsecond => hfirst (hiff.mpr hsecond)] at heq

end Origin

/-- Relocates the origins of closures. -/
def Closure.Change.relocating (base path : Origin) : Closure.Change where
  apply closure := { closure with origin := Origin.relocated base path closure.origin }
  rename := Origin.relocated base path
  rename_injective := Origin.relocated_injective base path
  origin_apply _ := rfl

/-- The scope with the origins of all closures relocated. -/
def Scope.relocated (base path : Origin) (scope : Scope) : Scope :=
  ⟨scope.context.changed (.relocating base path), scope.resolver, scope.maxDepth⟩

/-- A scope none of whose closures was made by a step of `base` is not changed. -/
theorem Scope.relocated_of_every {base : Origin} (path : Origin) {scope : Scope}
    (h : scope.context.Every fun closure => ¬ base <:+ closure.origin) :
    scope.relocated base path = scope := by
  have hcontext : scope.context.changed (.relocating base path) = scope.context := by
    refine context_changed_of_every _ (h.mono fun closure hclosure => ?_)
    have horigin := Origin.relocated_of_not_suffix path hclosure
    cases closure
    exact congrArg (Closure.mk _ _ _ _) horigin
  rw [Scope.relocated, hcontext]

/-! ## Calls -/

variable {base path : Origin} {host : Host} {invoke : Invoke}

/-- What is computed from a changed outcome is changed if it is so for each value. -/
theorem bind_of_map {ε α β γ δ : Type} {first : Except ε α} {second : Except ε β} {f : α → β}
    {g : γ → δ} (h : second = first.map f) {next : α → Except ε γ} {later : β → Except ε δ}
    (hnext : ∀ value, later (f value) = (next value).map g) :
    second >>= later = (first >>= next).map g := by
  subst h
  cases first with
  | ok value => exact hnext value
  | error reason => rfl

/-- What is computed from one outcome in two ways is changed if it is so for each value. -/
theorem bind_of_eq {ε α β γ : Type} {outcome : Except ε α} {g : β → γ} {next : α → Except ε β}
    {later : α → Except ε γ} (hnext : ∀ value, later value = (next value).map g) :
    outcome >>= later = (outcome >>= next).map g :=
  bind_of_map (congrFun Except.map_id outcome).symm hnext

/-- Relocated closures that are called in the other place have their values there. -/
def Invoke.Relocates (base path : Origin) (invoke : Invoke) : Prop :=
  ∀ (closure : Closure) (args : List Value) (turns : Origin),
    invoke (closure.changed (.relocating base path))
        (args.map (Value.changed (.relocating base path))) (turns ++ (path ++ base)) =
      (invoke closure args (turns ++ base)).map (Value.changed (.relocating base path))

/-- The library only uses origins to tell closures apart: a call in another place has its answer
there. -/
def Library.IgnoresOrigins (library : Library) : Prop :=
  ∀ (base path : Origin) (invoke : Invoke), invoke.Relocates base path →
    ∀ (name : String) (args : List Value) (context : Context) (turns : Origin),
      library invoke ⟨name, args.map (Value.changed (.relocating base path)),
          context.changed (.relocating base path), turns ++ (path ++ base)⟩ =
        (library invoke ⟨name, args, context, turns ++ base⟩).map
          (Value.changed (.relocating base path))

/-- A function that calls a closure in another place has its value there. -/
theorem call_invoke_relocated (hinvoke : invoke.Relocates base path) {first second : Call}
    {turns : Origin} (hfirst : first.origin = turns ++ (path ++ base))
    (hsecond : second.origin = turns ++ base) (closure : Closure) (step : Nat) (args : List Value) :
    first.invoke invoke step (closure.changed (.relocating base path))
        (args.map (Value.changed (.relocating base path))) =
      (second.invoke invoke step closure args).map (Value.changed (.relocating base path)) := by
  have hanswer := hinvoke closure args (step :: turns)
  rw [List.cons_append, List.cons_append] at hanswer
  rw [Call.invoke, Call.invoke, hfirst, hsecond, hanswer]
  cases invoke closure args (step :: (turns ++ base)) <;> rfl

namespace StandardFunction

/-- Calling a closure on each item in another place has the values there. -/
theorem map_items_relocated (hinvoke : invoke.Relocates base path) {first second : Call}
    {turns : Origin} (hfirst : first.origin = turns ++ (path ++ base))
    (hsecond : second.origin = turns ++ base) (closure : Closure) (step : Nat)
    (items : List Value) :
    mapItems invoke first (closure.changed (.relocating base path)) step
        (items.map (Value.changed (.relocating base path))) =
      (mapItems invoke second closure step items).map
        (List.map (Value.changed (.relocating base path))) := by
  induction items generalizing step with
  | nil => rfl
  | cons item items ih =>
      have hcall := call_invoke_relocated hinvoke hfirst hsecond closure step [item]
      refine bind_of_map hcall fun value => ?_
      exact bind_of_map (ih (step + 1)) fun values => rfl

/-- A call of `map` in another place has its answer there. -/
theorem map_relocated (hinvoke : invoke.Relocates base path) (name : String) (args : List Value)
    (context other : Context) (turns : Origin) :
    answer invoke ⟨name, args.map (Value.changed (.relocating base path)), other,
        turns ++ (path ++ base)⟩ .map =
      (answer invoke ⟨name, args, context, turns ++ base⟩ .map).map
        (Value.changed (.relocating base path)) := by
  rcases args with _ | ⟨collection, _ | ⟨function, _ | ⟨_, more⟩⟩⟩
  case cons.cons.nil =>
    by_cases hclosure : ∃ closure, function = .closure closure
    · obtain ⟨closure, rfl⟩ := hclosure
      simp only [List.map_cons, List.map_nil, changed_closure, answer, elements_of?_changed,
        type_name_changed]
      cases elementsOf? collection with
      | none => rfl
      | some items =>
          refine bind_of_map (map_items_relocated hinvoke rfl rfl closure 0 items) fun values => ?_
          rw [← changed_list]
          rfl
    · have hfunction : ∀ closure, function ≠ .closure closure :=
        fun closure heq => hclosure ⟨closure, heq⟩
      rw [List.map_cons, List.map_cons, List.map_nil, answer_map_of_not_closure hfunction,
        answer_map_of_not_closure (changed_ne_closure hfunction), type_name_changed]
      rfl
  case cons.cons.cons =>
    simp only [List.map_cons, answer_map_of_many, List.length_map]
    rfl
  all_goals rfl

end StandardFunction

/-- The standard library leaves origins alone. -/
theorem standard_ignores_origins : Library.standard.IgnoresOrigins := by
  intro base path invoke hinvoke name args context turns
  rw [Library.standard, Library.standard]
  cases StandardFunction.ofName? name with
  | none => rfl
  | some function =>
      by_cases hmap : function = .map
      · subst hmap
        exact StandardFunction.map_relocated hinvoke name args context _ turns
      · exact answer_changed hmap rfl rfl

/-- Changed values have the same sum. -/
theorem sum_of_ints_changed (change : Closure.Change) (values : List Value) :
    Library.sumOfInts (values.map (Value.changed change)) = Library.sumOfInts values := by
  have hint : ∀ value : Value, (value.changed change).int? = value.int? := by
    intro value
    cases value <;> rfl
  rw [Library.sumOfInts, Library.sumOfInts, List.filterMap_map]
  simp only [Function.comp_def, hint]

/-- The sample library to try things out with leaves origins alone. -/
theorem trial_ignores_origins : Library.trial.IgnoresOrigins := by
  intro base path invoke hinvoke name args context turns
  have hstandard := standard_ignores_origins base path invoke hinvoke name args context turns
  rw [Library.trial.eq_def, Library.trial.eq_def]
  dsimp only
  split
  · -- `add`
    rw [sum_of_ints_changed]
    rfl
  · -- `apply`
    rcases args with _ | ⟨function, args⟩
    · rfl
    · cases function with
      | closure closure => exact call_invoke_relocated hinvoke rfl rfl closure 0 args
      | _ => rfl
  · -- `wrap`
    have hfirst : (args.map (Value.changed (.relocating base path))).headD .null =
        (args.headD .null).changed (.relocating base path) := by
      cases args <;> rfl
    have hpairs (value other : Value) : Context.ofPairs [(Context.defaultKey, value),
        ("extra", other)] = (Context.empty.insert Context.defaultKey value).insert "extra" other :=
      rfl
    refine congrArg Except.ok ?_
    rw [hfirst, changed_map, hpairs, hpairs, changed_insert, changed_insert]
    rfl
  · -- `ctx`
    rw [← changed_map]
    rfl
  · -- `fail`
    rw [joined_text_changed]
    rfl
  · -- `explode`
    rfl
  · -- `decimal`
    rcases args with _ | ⟨arg, _ | ⟨_, _⟩⟩
    · exact hstandard
    · cases arg with
      | str text =>
          have hargs : [Value.str text].map (Value.changed (.relocating base path)) = [.str text] :=
            rfl
          rw [hargs]
          dsimp only
          cases Number.Decimal.ofText? text <;> rfl
      | _ => exact hstandard
    · cases arg <;> exact hstandard
  · exact hstandard

/-- Every resolver stands for a library that leaves origins alone, if the host has no other ones. -/
theorem Resolver.ignores_origins (hhost : ∀ name, (host name).IgnoresOrigins)
    (resolver : Resolver) : (resolver.library host).IgnoresOrigins := by
  cases resolver with
  | standard => exact standard_ignores_origins
  | hosted name => exact hhost name

/-! ## Evaluation -/

namespace Scope

variable {scope : Scope}

theorem relocated_context :
    (scope.relocated base path).context = scope.context.changed (.relocating base path) :=
  rfl

/-- A call of a function in another place has its value there. -/
theorem call_relocated (hhost : ∀ name, (host name).IgnoresOrigins)
    (hinvoke : invoke.Relocates base path) (turns : Origin) (name : String) (args : List Value) :
    (scope.relocated base path).call ⟨host, invoke⟩ (turns ++ (path ++ base)) name
        (args.map (Value.changed (.relocating base path))) =
      (scope.call ⟨host, invoke⟩ (turns ++ base) name args).map
        (Value.changed (.relocating base path)) := by
  have hanswer := Resolver.ignores_origins hhost scope.resolver base path invoke hinvoke name args
    scope.context turns
  rw [call, call, relocated_context, relocated, hanswer]
  rcases scope.resolver.library host invoke ⟨name, args, scope.context, turns ++ base⟩ with
    reason | value
  · cases reason <;> rfl
  · rfl

/-- Operators apply to relocated values as they do to the values. -/
theorem apply_op_relocated (op : BinaryOp) (left right : Value) :
    applyOp op (left.changed (.relocating base path)) (right.changed (.relocating base path)) =
      (applyOp op left right).map (Value.changed (.relocating base path)) := by
  rw [applyOp, applyOp, apply_changed]
  cases hvalue : op.apply left right with
  | ok value =>
      have hfree : value.ClosureFree := apply_every hvalue
      exact congrArg Except.ok (changed_of_closure_free value hfree).symm
  | error error => rfl

mutual
/-- A tree that is evaluated in another place has its value there. -/
theorem eval_at_relocated (hhost : ∀ name, (host name).IgnoresOrigins)
    (hinvoke : invoke.Relocates base path) (depth : Nat) (turns : Origin) (expr : Expr) :
    (scope.relocated base path).evalAt ⟨host, invoke⟩ depth (turns ++ (path ++ base)) expr =
      (scope.evalAt ⟨host, invoke⟩ depth (turns ++ base) expr).map
        (Value.changed (.relocating base path)) := by
  by_cases hdepth : scope.maxDepth ≤ depth
  · have hlater : (scope.relocated base path).maxDepth ≤ depth := hdepth
    rw [evalAt.eq_def, evalAt.eq_def, if_pos hdepth, if_pos hlater]
    rfl
  · have hlater : ¬ (scope.relocated base path).maxDepth ≤ depth := hdepth
    cases expr with
    | text content =>
        simp only [evalAt, hdepth, hlater, if_false]
        rfl
    | literal literal =>
        have hfree : literal.value.ClosureFree := literal_every literal
        simp only [evalAt, hdepth, hlater, if_false]
        exact congrArg Except.ok (changed_of_closure_free literal.value hfree).symm
    | atom name =>
        simp only [evalAt, hdepth, hlater, if_false, relocated_context, get?_changed,
          ← changed_get_d]
        rfl
    | property subject key =>
        by_cases hatom : ∃ name, subject = .atom name
        · obtain ⟨name, rfl⟩ := hatom
          simp only [evalAt, hdepth, hlater, if_false, relocated_context,
            ← variable_property_changed]
          rfl
        · rw [eval_at_property hdepth fun name heq => hatom ⟨name, heq⟩,
            eval_at_property hlater fun name heq => hatom ⟨name, heq⟩]
          refine bind_of_map (eval_at_relocated hhost hinvoke _ (0 :: turns) subject)
            fun value => ?_
          rw [lookup_changed]
          rfl
    | access subject index =>
        simp only [evalAt, hdepth, hlater, if_false]
        refine bind_of_map (eval_at_relocated hhost hinvoke _ (0 :: turns) subject)
          fun value => ?_
        refine bind_of_map (eval_at_relocated hhost hinvoke _ (1 :: turns) index)
          fun place => ?_
        rw [access_changed]
        rfl
    | function name args =>
        simp only [evalAt, hdepth, hlater, if_false]
        split
        · rfl
        · exact bind_of_map (eval_all_at_relocated hhost hinvoke _ turns 0 args)
            fun values => call_relocated hhost hinvoke (args.length :: turns) name values
    | lambda body =>
        simp only [evalAt, hdepth, hlater, if_false]
        rw [← Origin.relocated_append]
        rfl
    | capture index =>
        simp only [evalAt, hdepth, hlater, if_false, relocated_context, ← capture_changed]
        rfl
    | range start stop step =>
        simp only [evalAt, hdepth, hlater, if_false]
        -- Each bound is looked at before the next one is evaluated.
        refine bind_of_map (eval_at_relocated hhost hinvoke _ (0 :: turns) start)
          fun first => ?_
        rw [bound_of_changed]
        refine bind_of_eq fun first => ?_
        refine bind_of_map (eval_at_relocated hhost hinvoke _ (1 :: turns) stop)
          fun last => ?_
        rw [bound_of_changed]
        refine bind_of_eq fun last => ?_
        have hstep := eval_step_at_relocated hhost hinvoke (depth + 1) (2 :: turns) step
        rw [List.cons_append, List.cons_append] at hstep
        rw [hstep]
        refine bind_of_eq fun stride => ?_
        rw [rangeOf]
        split <;> rfl
    | list items =>
        simp only [evalAt, hdepth, hlater, if_false]
        refine bind_of_map (eval_all_at_relocated hhost hinvoke _ turns 0 items)
          fun values => ?_
        rw [← changed_list]
        rfl
    | binary op left right =>
        simp only [evalAt, hdepth, hlater, if_false]
        refine bind_of_map (eval_at_relocated hhost hinvoke _ (0 :: turns) left)
          fun first => ?_
        exact bind_of_map (eval_at_relocated hhost hinvoke _ (1 :: turns) right)
          fun second => apply_op_relocated op first second

/-- Trees that are evaluated in another place, in their order, have their values there. -/
theorem eval_all_at_relocated (hhost : ∀ name, (host name).IgnoresOrigins)
    (hinvoke : invoke.Relocates base path) (depth : Nat) (turns : Origin) (index : Nat) :
    (exprs : List Expr) →
    (scope.relocated base path).evalAllAt ⟨host, invoke⟩ depth (turns ++ (path ++ base)) index
        exprs =
      (scope.evalAllAt ⟨host, invoke⟩ depth (turns ++ base) index exprs).map
        (List.map (Value.changed (.relocating base path)))
  | [] => by
      rw [evalAllAt, evalAllAt]
      rfl
  | expr :: exprs => by
      rw [evalAllAt, evalAllAt]
      refine bind_of_map (eval_at_relocated hhost hinvoke _ (index :: turns) expr)
        fun value => ?_
      exact bind_of_map (eval_all_at_relocated hhost hinvoke _ turns (index + 1) exprs)
        fun values => rfl

/-- The step of a range is the same when it is evaluated in another place. -/
theorem eval_step_at_relocated (hhost : ∀ name, (host name).IgnoresOrigins)
    (hinvoke : invoke.Relocates base path) (depth : Nat) (turns : Origin) :
    (step : Option Expr) →
    (scope.relocated base path).evalStepAt ⟨host, invoke⟩ depth (turns ++ (path ++ base)) step =
      scope.evalStepAt ⟨host, invoke⟩ depth (turns ++ base) step
  | none => rfl
  | some expr => by
      rw [evalStepAt, evalStepAt, eval_at_relocated hhost hinvoke depth turns expr]
      cases scope.evalAt ⟨host, invoke⟩ depth (turns ++ base) expr with
      | ok value => exact bound_of_changed value
      | error halt => rfl
end

/-- The segments of a template that are evaluated in another place have their values there. -/
theorem eval_segments_relocated (hhost : ∀ name, (host name).IgnoresOrigins)
    (hinvoke : invoke.Relocates base path) (turns : Origin) (index : Nat) (exprs : List Expr) :
    (scope.relocated base path).evalSegments ⟨host, invoke⟩ (turns ++ (path ++ base)) index exprs =
      (scope.evalSegments ⟨host, invoke⟩ (turns ++ base) index exprs).map
        (List.map (Value.changed (.relocating base path))) := by
  induction exprs generalizing index with
  | nil => rfl
  | cons expr exprs ih =>
      rw [evalSegments, evalSegments]
      refine bind_of_map (eval_at_relocated hhost hinvoke 0 (index :: turns) expr) fun value => ?_
      refine bind_of_map (ih (index + 1)) fun values => ?_
      rw [unwrapped_changed]
      rfl

end Scope

/-- Under every budget, relocated closures that are called in the other place have their values
there. -/
theorem invoke_within_relocates (hhost : ∀ name, (host name).IgnoresOrigins) (base path : Origin)
    (budget : Nat) : (invokeWithin host budget).Relocates base path := by
  induction budget with
  | zero => exact fun _ _ _ => rfl
  | succ budget ih =>
      intro closure args turns
      obtain ⟨context, body, resolver, maxDepth, origin⟩ := closure
      let scope : Scope := ⟨context.withCaptures args, resolver, maxDepth⟩
      have hscope : scope.relocated base path =
          ⟨(context.changed (.relocating base path)).withCaptures
            (args.map (Value.changed (.relocating base path))), resolver, maxDepth⟩ := by
        rw [Scope.relocated, changed_with_captures]
      have hbody : (scope.relocated base path).evalSegments ⟨host, invokeWithin host budget⟩
            (turns ++ (path ++ base)) 0 body =
          (scope.evalSegments ⟨host, invokeWithin host budget⟩ (turns ++ base) 0 body).map
            (List.map (Value.changed (.relocating base path))) :=
        Scope.eval_segments_relocated hhost ih turns 0 body
      rw [hscope] at hbody
      refine bind_of_map hbody fun values => ?_
      -- The body must have a single value, in both places.
      rcases values with _ | ⟨value, _ | ⟨_, more⟩⟩
      · rfl
      · rfl
      · simp only [List.map_cons, List.length_cons, List.length_map]
        rfl

/-- A tree that is evaluated in another place, in a scope none of whose closures was made by a step
of `base`, has its value there. -/
theorem Scope.eval_relocated (hhost : ∀ name, (host name).IgnoresOrigins) {scope : Scope}
    (hscope : scope.context.Every fun closure => ¬ base <:+ closure.origin) (path : Origin)
    (budget depth : Nat) (expr : Expr) :
    scope.evalAt (.within host budget) depth (path ++ base) expr =
      (scope.evalAt (.within host budget) depth base expr).map
        (Value.changed (.relocating base path)) := by
  have heval : (scope.relocated base path).evalAt (.within host budget) depth (path ++ base) expr =
      (scope.evalAt (.within host budget) depth base expr).map
        (Value.changed (.relocating base path)) :=
    eval_at_relocated hhost (invoke_within_relocates hhost base path budget) depth [] expr
  rwa [relocated_of_every path hscope] at heval

/-- A segment on its own has the same value whatever its place is, except that the closures within
it are made there. -/
theorem Scope.eval_segment_relocated (hhost : ∀ name, (host name).IgnoresOrigins) {scope : Scope}
    (hscope : scope.context.Every fun closure => ¬ base <:+ closure.origin) (budget index : Nat)
    (expr : Expr) :
    scope.evalSegments (.within host budget) base index [expr] =
      (scope.eval host budget base expr).map fun value =>
        [value.unwrapped.changed (.relocating base [index])] := by
  have hvalue : scope.evalAt (.within host budget) 0 (index :: base) expr =
      (scope.eval host budget base expr).map (Value.changed (.relocating base [index])) :=
    eval_relocated hhost hscope [index] budget 0 expr
  rw [evalSegments, hvalue]
  cases scope.eval host budget base expr with
  | ok value => exact congrArg (fun value => Except.ok [value]) (unwrapped_changed value)
  | error halt => rfl

end TextTemplate
