import TextTemplate.Proofs.Eval.Outlasts
import TextTemplate.Proofs.Eval.Relevance

/-!
# The limit on nesting

The limit only ever cuts evaluations off: one that is not cut off has the same text or the same
error under every greater limit, and none is cut off under a limit that is at least the height of
the template (`evaluate_text_only_cuts_off`). Two evaluations under different limits make closures
with different limits, so their values are compared up to raising the limits of closures
(`Scope.outlasts_eval_at`).
-/

namespace TextTemplate

/-- Raises the limits of closures that are less than the given one. -/
def Closure.Change.raising (limit : Nat) : Closure.Change where
  apply closure := { closure with maxDepth := max closure.maxDepth limit }
  origin_apply _ := rfl

/-- The closure belongs to the standard library, and its limit is at least the height of its body,
unless limits may be tight. -/
structure Closure.HasRoom (tight : Prop) (closure : Closure) : Prop where
  standard : closure.resolver = .standard
  room : tight ∨ Expr.heightOfAll closure.body ≤ closure.maxDepth

/-- The scope with all limits raised that are less than the given one. -/
def Scope.raised (limit : Nat) (scope : Scope) : Scope :=
  ⟨scope.context.changed (.raising limit), scope.resolver, max scope.maxDepth limit⟩

/-- The scope belongs to the standard library, and the closures in its context have room. -/
structure Scope.HasRoom (tight : Prop) (scope : Scope) : Prop where
  standard : scope.resolver = .standard
  context : scope.context.Every (Closure.HasRoom tight)

/-- The second evaluation of a value outlasts the first one, with limits raised. -/
abbrev ValueOutlasts (tight : Prop) (limit : Nat) (first second : Except Halt Value) : Prop :=
  Outlasts tight Halt.IsOverflow (Value.Every (Closure.HasRoom tight))
    (Value.changed (.raising limit)) first second

/-- The second evaluation of values outlasts the first one, with limits raised. -/
abbrev ValuesOutlast (tight : Prop) (limit : Nat) (first second : Except Halt (List Value)) :
    Prop :=
  Outlasts tight Halt.IsOverflow
    (fun values => ∀ value ∈ values, value.Every (Closure.HasRoom tight))
    (List.map (Value.changed (.raising limit))) first second

variable {tight : Prop} {limit : Nat} {host : Host} {invoke later : Invoke}

namespace Scope

variable {scope : Scope}

theorem raised_context :
    (scope.raised limit).context = scope.context.changed (.raising limit) :=
  rfl

/-- Calls of functions outlast those in the scope with lower limits. -/
theorem outlasts_call (hscope : scope.HasRoom tight)
    (hinvoke : invoke.OutlastedBy tight (Closure.HasRoom tight) (.raising limit) later)
    {args : List Value} (hargs : ∀ arg ∈ args, arg.Every (Closure.HasRoom tight)) (origin : Origin)
    (name : String) :
    ValueOutlasts tight limit (scope.call ⟨host, invoke⟩ origin name args)
      ((scope.raised limit).call ⟨host, later⟩ origin name
        (args.map (Value.changed (.raising limit)))) := by
  have hlibrary := outlasts_standard hinvoke name hargs scope.context
    (scope.raised limit).context origin
  rw [call, call, show (scope.raised limit).resolver = scope.resolver from rfl, hscope.standard]
  revert hlibrary
  simp only [Resolver.library]
  generalize Library.standard invoke ⟨name, args, scope.context, origin⟩ = one
  generalize Library.standard later ⟨name, _, (scope.raised limit).context, origin⟩ = two
  rintro (hvalue | @⟨reason, hreason⟩ | @⟨reason, htight, hcut, _⟩)
  · exact .ok hvalue
  · cases reason with
    | halted halt => exact .error hreason
    | _ => exact .ok trivial
  · cases reason with
    | halted halt =>
        have hhalt : halt.IsOverflow := hcut
        exact .cut htight hhalt _
    | _ => exact hcut.elim

/-- Asking for a bound is not cut off. -/
theorem outlasts_bound_of (value : Value) :
    Outlasts tight Halt.IsOverflow (fun _ => True) id (boundOf value)
      (boundOf (value.changed (.raising limit))) := by
  rw [bound_of_changed]
  cases value with
  | int value => exact .ok trivial
  | _ => exact .error Bool.false_ne_true

/-- The errors of operators are no overflows. -/
theorem not_exceeded_of_apply {op : BinaryOp} {left right : Value} {error : EvalError}
    (h : op.apply left right = .error error) : error.isResourceExceeded = false := by
  have hcombine : op.combine left right = .error error → error.isResourceExceeded = false := by
    intro h
    rw [BinaryOp.combine.eq_def] at h
    split at h
    · cases h
    · cases h
    · cases h
    · split at h <;> cases h
      rfl
  have hnumeric : op.numeric left right = .error error → error.isResourceExceeded = false := by
    intro h
    rw [BinaryOp.numeric.eq_def] at h
    split at h
    · cases h
      rfl
    · split at h
      · cases h
        rfl
      · cases op <;> first | exact hcombine h | cases h
  cases op with
  | eq | ne | concat => cases h
  | pow =>
      rw [BinaryOp.apply, BinaryOp.power] at h
      split at h <;> cases h
      rfl
  | _ => exact hnumeric h

/-- Operators on values with raised limits outlast those on the values. -/
theorem outlasts_apply_op (op : BinaryOp) (left right : Value) :
    ValueOutlasts tight limit (applyOp op left right)
      (applyOp op (left.changed (.raising limit)) (right.changed (.raising limit))) := by
  rw [applyOp, applyOp, apply_changed]
  cases hvalue : op.apply left right with
  | ok value =>
      have hfree : value.ClosureFree := apply_every hvalue
      have hok : ValueOutlasts tight limit (.ok value) (.ok (value.changed (.raising limit))) :=
        .ok (apply_every hvalue)
      rwa [changed_of_closure_free value hfree] at hok
  | error error =>
      have herror : ¬ Halt.IsOverflow (.fault error) :=
        Bool.eq_false_iff.mp (not_exceeded_of_apply hvalue)
      exact .error herror

/-- What is nested deeper by one level in a tree leaves as much room as the tree. -/
theorem room_of_lt {depth height inner maxDepth : Nat} (h : tight ∨ depth + height ≤ maxDepth)
    (hlt : inner < height) : tight ∨ depth + 1 + inner ≤ maxDepth :=
  h.imp_right fun hle => by omega

mutual
/-- Evaluating a tree outlasts evaluating it with lower limits. -/
theorem outlasts_eval_at (hscope : scope.HasRoom tight)
    (hinvoke : invoke.OutlastedBy tight (Closure.HasRoom tight) (.raising limit) later)
    (depth : Nat) (origin : Origin) : (expr : Expr) →
    (tight ∨ depth + expr.height ≤ scope.maxDepth) →
    ValueOutlasts tight limit (scope.evalAt ⟨host, invoke⟩ depth origin expr)
      ((scope.raised limit).evalAt ⟨host, later⟩ depth origin expr)
  | expr, hroom => by
      by_cases hdepth : scope.maxDepth ≤ depth
      · -- The first evaluation is cut off, which only a tight limit does.
        have hpos := expr.height_pos
        have htight : tight := hroom.resolve_right (by omega)
        have hcut : Halt.IsOverflow (.fault (.stackOverflow depth scope.maxDepth)) := rfl
        have hfirst : scope.evalAt ⟨host, invoke⟩ depth origin expr =
            .error (.fault (.stackOverflow depth scope.maxDepth)) := by
          rw [evalAt.eq_def, if_pos hdepth]
        rw [hfirst]
        exact .cut htight hcut _
      · have hlater : ¬ (scope.raised limit).maxDepth ≤ depth := fun hle =>
          hdepth ((Nat.le_max_left _ _).trans hle)
        cases expr with
        | text content =>
            simp only [evalAt, hdepth, hlater, if_false]
            exact .ok trivial
        | literal literal =>
            simp only [evalAt, hdepth, hlater, if_false]
            have hfree : literal.value.ClosureFree := literal_every literal
            nth_rewrite 2 [← changed_of_closure_free literal.value hfree]
            exact .ok (literal_every literal)
        | atom name =>
            simp only [evalAt, hdepth, hlater, if_false, raised_context, get?_changed,
              ← changed_get_d]
            exact .ok (hscope.context.get?_getD name)
        | property subject key =>
            by_cases hatom : ∃ name, subject = .atom name
            · obtain ⟨name, rfl⟩ := hatom
              simp only [evalAt, hdepth, hlater, if_false, raised_context,
                ← variable_property_changed]
              exact .ok (hscope.context.variable_property name key)
            · rw [eval_at_property hdepth fun name heq => hatom ⟨name, heq⟩,
                eval_at_property hlater fun name heq => hatom ⟨name, heq⟩]
              have hsubject := room_of_lt hroom (Nat.lt_succ_self subject.height)
              refine (outlasts_eval_at hscope hinvoke _ _ subject hsubject).bind
                fun value hvalue => ?_
              rw [lookup_changed]
              exact .ok (hvalue.lookup key)
        | access subject index =>
            rw [Expr.height] at hroom
            simp only [evalAt, hdepth, hlater, if_false]
            refine (outlasts_eval_at hscope hinvoke _ _ subject
              (room_of_lt hroom (by omega))).bind fun value hvalue => ?_
            refine (outlasts_eval_at hscope hinvoke _ _ index
              (room_of_lt hroom (by omega))).bind fun place _ => ?_
            rw [access_changed]
            exact .ok (hvalue.access place)
        | function name args =>
            rw [Expr.height] at hroom
            simp only [evalAt, hdepth, hlater, if_false]
            split
            · exact .error Bool.false_ne_true
            · exact (outlasts_eval_all_at hscope hinvoke _ _ 0 args
                (room_of_lt hroom (Nat.lt_succ_self _))).bind
                  fun values hvalues => outlasts_call hscope hinvoke hvalues _ _
        | lambda body =>
            rw [Expr.height] at hroom
            simp only [evalAt, hdepth, hlater, if_false]
            have hclosure : Closure.HasRoom tight
                ⟨scope.context, body, scope.resolver, scope.maxDepth, origin⟩ :=
              ⟨hscope.standard, hroom.imp_right fun hle => by dsimp only; omega⟩
            exact .ok (every_closure.mpr (closure_every_iff.mpr ⟨hclosure, hscope.context⟩))
        | capture index =>
            simp only [evalAt, hdepth, hlater, if_false, raised_context, ← capture_changed]
            exact .ok (hscope.context.capture index)
        | range start stop step =>
            rw [Expr.height] at hroom
            simp only [evalAt, hdepth, hlater, if_false]
            refine (outlasts_eval_at hscope hinvoke _ _ start
              (room_of_lt hroom (by omega))).bind fun value _ => ?_
            refine (outlasts_bound_of value).bind fun low _ => ?_
            refine (outlasts_eval_at hscope hinvoke _ _ stop
              (room_of_lt hroom (by omega))).bind fun value _ => ?_
            refine (outlasts_bound_of value).bind fun high _ => ?_
            refine (outlasts_eval_step_at hscope hinvoke _ _ step
              (room_of_lt hroom (by omega))).bind fun stride _ => ?_
            rw [id, id, id, rangeOf]
            split
            · exact .error Bool.false_ne_true
            · exact .ok trivial
        | list items =>
            rw [Expr.height] at hroom
            simp only [evalAt, hdepth, hlater, if_false]
            refine (outlasts_eval_all_at hscope hinvoke _ _ 0 items
              (room_of_lt hroom (Nat.lt_succ_self _))).bind fun values hvalues => ?_
            rw [← changed_list]
            exact .ok (every_list.mpr hvalues)
        | binary op left right =>
            rw [Expr.height] at hroom
            simp only [evalAt, hdepth, hlater, if_false]
            refine (outlasts_eval_at hscope hinvoke _ _ left
              (room_of_lt hroom (by omega))).bind fun first _ => ?_
            exact (outlasts_eval_at hscope hinvoke _ _ right
              (room_of_lt hroom (by omega))).bind fun second _ => outlasts_apply_op op first second

/-- Evaluating trees in their order outlasts evaluating them with lower limits. -/
theorem outlasts_eval_all_at (hscope : scope.HasRoom tight)
    (hinvoke : invoke.OutlastedBy tight (Closure.HasRoom tight) (.raising limit) later)
    (depth : Nat) (origin : Origin) (index : Nat) : (exprs : List Expr) →
    (tight ∨ depth + Expr.heightOfAll exprs ≤ scope.maxDepth) →
    ValuesOutlast tight limit (scope.evalAllAt ⟨host, invoke⟩ depth origin index exprs)
      ((scope.raised limit).evalAllAt ⟨host, later⟩ depth origin index exprs)
  | [], _ => by
      rw [evalAllAt, evalAllAt]
      exact .ok (List.forall_mem_nil _)
  | expr :: exprs, hroom => by
      rw [Expr.heightOfAll] at hroom
      rw [evalAllAt, evalAllAt]
      refine (outlasts_eval_at hscope hinvoke _ _ expr
        (hroom.imp_right fun hle => by omega)).bind fun value hvalue => ?_
      exact (outlasts_eval_all_at hscope hinvoke _ _ (index + 1) exprs
        (hroom.imp_right fun hle => by omega)).bind
          fun values hvalues => .ok (List.forall_mem_cons.mpr ⟨hvalue, hvalues⟩)

/-- Evaluating the step of a range outlasts evaluating it with lower limits. -/
theorem outlasts_eval_step_at (hscope : scope.HasRoom tight)
    (hinvoke : invoke.OutlastedBy tight (Closure.HasRoom tight) (.raising limit) later)
    (depth : Nat) (origin : Origin) : (step : Option Expr) →
    (tight ∨ depth + Expr.heightOfStep step ≤ scope.maxDepth) →
    Outlasts tight Halt.IsOverflow (fun _ => True) id
      (scope.evalStepAt ⟨host, invoke⟩ depth origin step)
      ((scope.raised limit).evalStepAt ⟨host, later⟩ depth origin step)
  | none, _ => by
      rw [evalStepAt, evalStepAt]
      exact .ok trivial
  | some expr, hroom => by
      rw [evalStepAt, evalStepAt]
      exact (outlasts_eval_at hscope hinvoke _ _ expr hroom).bind
        fun value _ => outlasts_bound_of value
end

/-- Evaluating the segments of a template outlasts evaluating them with lower limits. -/
theorem outlasts_eval_segments (hscope : scope.HasRoom tight)
    (hinvoke : invoke.OutlastedBy tight (Closure.HasRoom tight) (.raising limit) later)
    (origin : Origin) (index : Nat) {exprs : List Expr}
    (hroom : tight ∨ Expr.heightOfAll exprs ≤ scope.maxDepth) :
    ValuesOutlast tight limit (scope.evalSegments ⟨host, invoke⟩ origin index exprs)
      ((scope.raised limit).evalSegments ⟨host, later⟩ origin index exprs) := by
  induction exprs generalizing index with
  | nil => exact .ok (List.forall_mem_nil _)
  | cons expr exprs ih =>
      rw [Expr.heightOfAll] at hroom
      rw [evalSegments, evalSegments]
      refine (outlasts_eval_at hscope hinvoke _ _ expr
        (hroom.imp_right fun hle => by omega)).bind fun value hvalue => ?_
      refine (ih (index + 1) (hroom.imp_right fun hle => by omega)).bind fun values hvalues => ?_
      rw [unwrapped_changed]
      exact .ok (List.forall_mem_cons.mpr ⟨hvalue.unwrapped, hvalues⟩)

end Scope

/-- Under every budget, calls of closures with raised limits outlast those of the closures. -/
theorem invoke_within_outlasted (tight : Prop) (limit : Nat) (host : Host) (budget : Nat) :
    (invokeWithin host budget).OutlastedBy tight (Closure.HasRoom tight) (.raising limit)
      (invokeWithin host budget) := by
  induction budget with
  | zero => exact fun _ _ => .error id
  | succ budget ih =>
      intro call hcall
      obtain ⟨⟨context, body, resolver, maxDepth, step⟩, args, origin⟩ := call
      obtain ⟨hself, hcontext⟩ := closure_every_iff.mp hcall.1
      let scope : Scope := ⟨context.withCaptures args, resolver, maxDepth⟩
      have hscope : scope.HasRoom tight := ⟨hself.standard, hcontext.with_captures hcall.2⟩
      have hraised : scope.raised limit = ⟨(context.changed (.raising limit)).withCaptures
          (args.map (Value.changed (.raising limit))), resolver, max maxDepth limit⟩ := by
        rw [Scope.raised, changed_with_captures]
      have hbody : ValuesOutlast tight limit
          (scope.evalSegments ⟨host, invokeWithin host budget⟩ origin 0 body)
          ((scope.raised limit).evalSegments ⟨host, invokeWithin host budget⟩ origin 0 body) :=
        Scope.outlasts_eval_segments hscope ih origin 0 hself.room
      rw [answer_invoke_within_succ, answer_invoke_within_succ, Invocation.run, Invocation.run]
      rw [hraised] at hbody
      refine hbody.bind fun values hvalues => ?_
      -- The body must have a single value, in both runs.
      rcases values with _ | ⟨value, _ | ⟨_, more⟩⟩
      · exact .error Bool.false_ne_true
      · exact .ok (hvalues value List.mem_cons_self)
      · simp only [List.map_cons, List.length_cons, List.length_map]
        exact .error Bool.false_ne_true

/-! ## Whole evaluations -/

/-- The text of a template under a limit is outlasted by its text under any greater limit. -/
theorem outlasts_rendering {context : Context} (hcontext : context.ClosureFree) (host : Host)
    (origin : Origin) {template : Template} {low high : Nat} (hle : low ≤ high) (budget : Nat)
    (hroom : tight ∨ Expr.heightOfAll template ≤ low) :
    Outlasts tight Halt.IsOverflow (fun _ => True) id
      (context.rendering host low origin template budget)
      (context.rendering host high origin template budget) := by
  have hscope : Scope.HasRoom tight ⟨context, .standard, low⟩ := ⟨rfl, hcontext.every⟩
  have hraised : Scope.raised high ⟨context, .standard, low⟩ = ⟨context, .standard, high⟩ := by
    rw [Scope.raised, context_changed_of_closure_free context hcontext, Nat.max_eq_right hle]
  have hvalues : ValuesOutlast tight high
      (Scope.evalTemplate ⟨context, .standard, low⟩ host budget origin template)
      ((Scope.raised high ⟨context, .standard, low⟩).evalTemplate host budget origin template) :=
    Scope.outlasts_eval_segments hscope (invoke_within_outlasted tight high host budget) origin 0
      hroom
  rw [hraised] at hvalues
  -- The text of the values is computed from them, and closures have no part in it.
  have htext : Outlasts tight Halt.IsOverflow (fun _ => True) id
      (Scope.evalTemplate ⟨context, .standard, low⟩ host budget origin template >>= fun values =>
        .ok (Value.joinedText values))
      (Scope.evalTemplate ⟨context, .standard, high⟩ host budget origin template >>= fun values =>
        .ok (Value.joinedText values)) := by
    refine hvalues.bind fun values _ => ?_
    rw [joined_text_changed]
    exact .ok trivial
  exact htext

/-- The engine with another limit on nesting. -/
def Engine.limited (engine : Engine) (limit : Nat) : Engine :=
  { engine with options := { engine.options with maxDepth := limit } }

/-- The evaluation was cut off by the limit on nesting. -/
def IsCutOff (outcome : Except EngineError String) : Prop :=
  ∃ depth limit, outcome = .error (.resourceExceeded (.stackOverflow depth limit))

/-- An evaluation is cut off exactly by the halts that are due to the limit. -/
theorem is_cut_off_map_error {outcome : Except Halt String} :
    IsCutOff (outcome.mapError .ofHalt) ↔ ∃ halt, outcome = .error halt ∧ halt.IsOverflow := by
  constructor
  · rintro ⟨depth, limit, h⟩
    rcases outcome with (error | _) | _
    · cases error <;> cases h
      exact ⟨_, rfl, rfl⟩
    · cases h
    · cases h
  · rintro ⟨halt, rfl, hcut⟩
    rcases halt with error | _
    · cases error <;> first | exact ⟨_, _, rfl⟩ | cases hcut
    · cases hcut

/-- Limits only ever cut off what has the text under them: if it is not cut off, it has the same
text or the same error under every greater limit; and it is not cut off under a limit that is at
least the height. -/
structure OnlyCutsOff (height : Nat) (text : Nat → Except EngineError String) : Prop where
  eq_of_le : ∀ low high, low ≤ high → ¬ IsCutOff (text low) → text high = text low
  not_cut_off : ∀ limit, height ≤ limit → ¬ IsCutOff (text limit)

variable {context : Context} {template : Template}

/-- Limits only ever cut off the evaluation of a template by the standard library, whatever the
budget for calls of closures. -/
theorem rendering_only_cuts_off (hcontext : context.ClosureFree) (host : Host) (origin : Origin)
    (budget : Nat) :
    OnlyCutsOff (Expr.heightOfAll template) fun limit =>
      (context.rendering host limit origin template budget).mapError .ofHalt where
  eq_of_le low high hle h := by
    have houtlasts : Outlasts True Halt.IsOverflow (fun _ => True) id
        (context.rendering host low origin template budget)
        (context.rendering host high origin template budget) :=
      outlasts_rendering hcontext host origin hle budget (.inl trivial)
    have heq := houtlasts.eq_map fun halt heq hcut =>
      h (is_cut_off_map_error.mpr ⟨halt, heq, hcut⟩)
    rw [heq, Except.map_id, id]
  not_cut_off limit h := by
    -- No limit is tight, so that the evaluation is not cut off in comparison with itself.
    have houtlasts : Outlasts False Halt.IsOverflow (fun _ => True) id
        (context.rendering host limit origin template budget)
        (context.rendering host limit origin template budget) :=
      outlasts_rendering hcontext host origin (Nat.le_refl limit) budget (.inr h)
    intro hcut
    obtain ⟨halt, heq, hoverflow⟩ := is_cut_off_map_error.mp hcut
    exact houtlasts.not_cut heq hoverflow

/-- An engine that cannot select a resolver does not evaluate. -/
theorem evaluate_text_of_unselected {engine : Engine} {source : String}
    (hparse : Template.parse source = .ok template) {error : EvalError}
    (hselect : engine.resolvers.select context = .error error) (origin : Origin) :
    engine.evaluateText origin source context = .error (.ofEvalError error) := by
  rw [evaluate_text_of_parse engine hparse, CompiledTemplate.runText, CompiledTemplate.run,
    Engine.compiled, Resolvers.evalTemplate, hselect]
  rfl

/-- The only reason not to select a resolver is that none has the name that is asked for. -/
theorem eq_unknown_resolver_of_select {resolvers : Resolvers} {error : EvalError}
    (h : resolvers.select context = .error error) : ∃ name, error = .unknownResolver name := by
  rw [Resolvers.select] at h
  split at h
  · cases h
  · split at h <;> cases h
    exact ⟨_, rfl⟩

/-- The limit on nesting only ever cuts evaluations off: where an engine evaluates by the standard
library, a template that is not cut off in a context without closures has the same text or the same
error under every greater limit, and it is not cut off under a limit that is at least its height.
The same holds if closures may be called within each other up to any other number of times. -/
theorem evaluate_text_only_cuts_off (engine : Engine) {source : String}
    (hparse : Template.parse source = .ok template) (hcontext : context.ClosureFree)
    (hstandard : ∀ resolver, engine.resolvers.select context = .ok resolver →
      resolver = .standard) (origin : Origin) :
    OnlyCutsOff (Expr.heightOfAll template) (fun limit =>
      (engine.limited limit).evaluateText origin source context) ∧
    ∀ budget, OnlyCutsOff (Expr.heightOfAll template) fun limit =>
      (context.rendering engine.host limit origin template budget).mapError .ofHalt := by
  have hrendering : ∀ budget, OnlyCutsOff (Expr.heightOfAll template) fun limit =>
      (context.rendering engine.host limit origin template budget).mapError .ofHalt :=
    rendering_only_cuts_off hcontext engine.host origin
  refine ⟨?_, hrendering⟩
  cases hselect : engine.resolvers.select context with
  | ok resolver =>
      obtain rfl := hstandard resolver hselect
      have hselects : ∀ limit, (engine.limited limit).resolvers.select context = .ok .standard :=
        fun _ => hselect
      have htext : ∀ limit, (engine.limited limit).evaluateText origin source context =
          (context.rendering engine.host limit origin template callBudget).mapError .ofHalt :=
        fun limit => evaluate_text_of_select hparse (hselects limit) origin
      simp only [htext]
      exact hrendering callBudget
  | error error =>
      obtain ⟨name, rfl⟩ := eq_unknown_resolver_of_select hselect
      have hselects : ∀ limit, (engine.limited limit).resolvers.select context =
          .error (.unknownResolver name) :=
        fun _ => hselect
      have htext : ∀ limit, (engine.limited limit).evaluateText origin source context =
          .error (.runtime (.unknownResolver name)) :=
        fun limit => evaluate_text_of_unselected hparse (hselects limit) origin
      simp only [htext]
      refine ⟨fun _ _ _ _ => rfl, fun _ _ ⟨depth, limit, h⟩ => ?_⟩
      cases h

/-- A template of height four is not cut off under the limit four, so that it has the same text
under the limit that engines have by themselves. Under the limit one it is cut off. -/
theorem evaluate_text_only_cuts_off_of_map :
    let engine : Engine := ⟨fun _ => .standard, ⟨.standard, []⟩, {}⟩
    let source := "Sum: @map([1, 2], &(&1 + 1))"
    ¬ IsCutOff ((engine.limited 4).evaluateText [] source .empty) ∧
      (engine.limited 1000).evaluateText [] source .empty =
        (engine.limited 4).evaluateText [] source .empty ∧
      IsCutOff ((engine.limited 1).evaluateText [] source .empty) := by
  intro engine source
  have hparse : Template.parse source = .ok [.text "Sum: ",
      .function "map" [.list [.literal (.int 1), .literal (.int 2)],
        .lambda [.binary .add (.capture 1) (.literal (.int 1))]]] := by
    cbv
  have hempty : Context.empty.ClosureFree := context_every_iff.mpr (List.forall_mem_nil _)
  have hlimits := (evaluate_text_only_cuts_off engine hparse hempty
    (fun resolver h => (Except.ok.inj h).symm) []).1
  have henough := hlimits.not_cut_off 4 (by decide)
  refine ⟨henough, hlimits.eq_of_le 4 1000 (by decide) henough, 1, 1, ?_⟩
  have hselect : (engine.limited 1).resolvers.select .empty = .ok .standard := rfl
  rw [evaluate_text_of_select hparse hselect]
  rfl

end TextTemplate
