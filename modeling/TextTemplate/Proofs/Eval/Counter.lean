import TextTemplate.Eval.Evaluator
import TextTemplate.Proofs.Eval.Sequential

/-!
# The depth counter

An evaluator may keep the depth of nesting in a counter of its own, which it counts up before it
looks into a tree and down again behind that, instead of handing the depth on (`Scope.walk`).
Whether a tree has a value or fails, the counter is left where it was found, and so the outcome is
that of `Scope.evalAt` at this depth (`Scope.walk_keeps`). Hence the segments of a template are
independent of each other (`Scope.segments_are_independent`): none of them finds the counter
elsewhere than it would on its own.
-/

namespace TextTemplate

/-! ## Computations that count -/

/-- Computations with a counter, which those that fail leave behind as well. -/
abbrev Counting := ExceptT Halt (StateM Nat)

namespace Counting

variable {α β : Type}

/-- What the computation comes to when the counter stands at `depth`, and where it leaves the
counter. -/
def outcome (computation : Counting α) (depth : Nat) : Except Halt α × Nat :=
  computation.run.run depth

/-- Counts a level of nesting up, runs the computation, and counts the level down again, whether the
computation fails or not. Where the limit is reached, nothing is run or counted. -/
def nested (limit : Nat) (computation : Counting α) : Counting α := do
  let depth ← get
  if limit ≤ depth then throw (.fault (.stackOverflow depth limit))
  else
    modify (· + 1)
    let result ← ExceptT.lift computation.run
    modify (· - 1)
    liftM result

/-- A computation goes on from where its first part leaves the counter. -/
theorem outcome_bind (computation : Counting α) (next : α → Counting β) (depth : Nat) :
    (computation >>= next).outcome depth =
      match computation.outcome depth with
      | (.ok value, left) => (next value).outcome left
      | (.error halt, left) => (.error halt, left) := by
  change (ExceptT.bindCont next (computation.outcome depth).1).run
    (computation.outcome depth).2 = _
  obtain ⟨_ | value, left⟩ := computation.outcome depth <;> rfl

theorem outcome_nested (limit : Nat) (computation : Counting α) (depth : Nat) :
    (nested limit computation).outcome depth =
      if limit ≤ depth then (.error (.fault (.stackOverflow depth limit)), depth)
      else
        ((computation.outcome (depth + 1)).1, (computation.outcome (depth + 1)).2 - 1) := by
  change (if limit ≤ depth then _ else _ : Counting α).outcome depth = _
  split
  · rfl
  · change (liftM (computation.outcome (depth + 1)).1 : Counting α).outcome _ = _
    cases (computation.outcome (depth + 1)).1 <;> rfl

/-- Wherever the counter stands, the computation comes to what is given for this depth, and leaves
the counter there. -/
def Keeps (computation : Counting α) (given : Nat → Except Halt α) : Prop :=
  ∀ depth, computation.outcome depth = (given depth, depth)

namespace Keeps

variable {computation : Counting α} {given : Nat → Except Halt α}

/-- What does not look at the counter leaves it alone. -/
theorem lift (settled : Except Halt α) : Keeps (liftM settled) fun _ => settled := by
  intro depth
  cases settled <;> rfl

theorem pure (value : α) : Keeps (Pure.pure value) fun _ => .ok value :=
  lift (.ok value)

theorem bind {next : α → Counting β} {later : α → Nat → Except Halt β}
    (h : Keeps computation given) (hnext : ∀ value, Keeps (next value) (later value)) :
    Keeps (computation >>= next) fun depth => given depth >>= fun value => later value depth := by
  intro depth
  rw [outcome_bind, h depth]
  dsimp only
  cases given depth with
  | ok value => exact hnext value depth
  | error halt => rfl

/-- Behind a level of nesting the counter stands where it stood in front of it. -/
theorem nested (h : Keeps computation given) (limit : Nat) :
    Keeps (nested limit computation) fun depth =>
      if limit ≤ depth then .error (.fault (.stackOverflow depth limit))
      else given (depth + 1) := by
  intro depth
  rw [outcome_nested, h (depth + 1)]
  dsimp only
  split
  · rfl
  · rw [Nat.add_sub_cancel]

end Keeps

end Counting

/-! ## Evaluation with a counter -/

namespace Scope

mutual
/-- The value of a tree that is evaluated as the step `origin`; the counter tells how deep it is
nested. -/
def walk (scope : Scope) (calls : Calls) (origin : Origin) (expr : Expr) : Counting Value :=
  Counting.nested scope.maxDepth <|
    match expr with
    | .text content => pure (.str content)
    | .literal literal => pure literal.value
    | .atom name => pure ((scope.context.get? name).getD .null)
    | .property subject key =>
      match subject with
      | .atom name => pure (variableProperty scope.context name key)
      | subject => do
        let subject ← walk scope calls (0 :: origin) subject
        pure (subject.lookup key)
    | .access subject index => do
      let subject ← walk scope calls (0 :: origin) subject
      let index ← walk scope calls (1 :: origin) index
      pure (subject.access index)
    | .function name args =>
      if name.isEmpty then throw (.fault .missingFunctionName)
      else do
        let values ← walkAll scope calls origin 0 args
        scope.call calls (args.length :: origin) name values
    | .lambda body =>
      pure (.closure ⟨scope.context, body, scope.resolver, scope.maxDepth, origin⟩)
    | .capture index => pure (scope.context.capture index)
    | .range start stop step => do
      let start ← walk scope calls (0 :: origin) start
      let start ← boundOf start
      let stop ← walk scope calls (1 :: origin) stop
      let stop ← boundOf stop
      let step ← walkStep scope calls (2 :: origin) step
      rangeOf start stop step
    | .list items => do
      let values ← walkAll scope calls origin 0 items
      pure (.list values)
    | .binary op left right => do
      let left ← walk scope calls (0 :: origin) left
      let right ← walk scope calls (1 :: origin) right
      applyOp op left right

/-- The values of trees in their order, as the steps of `origin` from `index` on. -/
def walkAll (scope : Scope) (calls : Calls) (origin : Origin) (index : Nat) (exprs : List Expr) :
    Counting (List Value) :=
  match exprs with
  | [] => pure []
  | expr :: exprs => do
    let value ← walk scope calls (index :: origin) expr
    let values ← walkAll scope calls origin (index + 1) exprs
    pure (value :: values)

/-- The step of a range; it is one unless it is given. -/
def walkStep (scope : Scope) (calls : Calls) (origin : Origin) (step : Option Expr) :
    Counting Int64 :=
  match step with
  | none => pure 1
  | some step => do
    let step ← walk scope calls origin step
    boundOf step
end

/-- The values of the segments of a template, as the steps of `origin` from `index` on. -/
def walkSegments (scope : Scope) (calls : Calls) (origin : Origin) :
    Nat → List Expr → Counting (List Value)
  | _, [] => pure []
  | index, expr :: exprs => do
    let value ← walk scope calls (index :: origin) expr
    let values ← walkSegments scope calls origin (index + 1) exprs
    pure (value.unwrapped :: values)

open Counting

/-- The property of anything but a variable is looked up in its value. -/
theorem walk_property {scope : Scope} {calls : Calls} {origin : Origin} {subject : Expr}
    {key : String} (hsubject : ∀ name, subject ≠ .atom name) :
    scope.walk calls origin (.property subject key) = nested scope.maxDepth (do
      let value ← scope.walk calls (0 :: origin) subject
      pure (value.lookup key)) := by
  rw [walk.eq_def]
  cases subject with
  | atom name => exact absurd rfl (hsubject name)
  | _ => rfl

variable (scope : Scope) (calls : Calls)

mutual
/-- Evaluating a tree leaves the counter where it was found, be it with a value or not, and comes to
what evaluating it at this depth does. -/
theorem walk_keeps (origin : Origin) : (expr : Expr) →
    Keeps (scope.walk calls origin expr) fun depth => scope.evalAt calls depth origin expr
  | .text content => (Keeps.pure (Value.str content)).nested _
  | .literal literal => (Keeps.pure literal.value).nested _
  | .atom name => (Keeps.pure ((scope.context.get? name).getD .null)).nested _
  | .property subject key => by
      by_cases hatom : ∃ name, subject = .atom name
      · obtain ⟨name, rfl⟩ := hatom
        exact (Keeps.pure (variableProperty scope.context name key)).nested _
      · have hsubject : ∀ name, subject ≠ .atom name := fun name heq => hatom ⟨name, heq⟩
        have hwalk := ((walk_keeps (0 :: origin) subject).bind fun value =>
          Keeps.pure (value.lookup key)).nested scope.maxDepth
        rw [walk_property hsubject]
        intro depth
        rw [hwalk depth]
        dsimp only
        by_cases hdepth : scope.maxDepth ≤ depth
        · rw [if_pos hdepth, evalAt.eq_def, if_pos hdepth]
        · rw [eval_at_property hdepth hsubject, if_neg hdepth]
          rfl
  | .access subject index =>
      ((walk_keeps (0 :: origin) subject).bind fun value =>
        (walk_keeps (1 :: origin) index).bind fun place => .pure (value.access place)).nested _
  | .function name args => by
      have hcall : Keeps
          (if name.isEmpty then throw (.fault .missingFunctionName)
            else scope.walkAll calls origin 0 args >>= fun values =>
              liftM (scope.call calls (args.length :: origin) name values))
          (fun depth => if name.isEmpty then .error (.fault .missingFunctionName)
            else scope.evalAllAt calls depth origin 0 args >>= fun values =>
              scope.call calls (args.length :: origin) name values) := by
        split
        · exact .lift (.error (.fault .missingFunctionName))
        · exact (walk_all_keeps origin 0 args).bind fun values => .lift _
      exact hcall.nested _
  | .lambda body =>
      (Keeps.pure (Value.closure
        ⟨scope.context, body, scope.resolver, scope.maxDepth, origin⟩)).nested _
  | .capture index => (Keeps.pure (scope.context.capture index)).nested _
  | .range start stop step =>
      ((walk_keeps (0 :: origin) start).bind fun value => (Keeps.lift (boundOf value)).bind
        fun first => (walk_keeps (1 :: origin) stop).bind fun value =>
          (Keeps.lift (boundOf value)).bind fun last =>
            (walk_step_keeps (2 :: origin) step).bind fun stride =>
              .lift (rangeOf first last stride)).nested _
  | .list items =>
      ((walk_all_keeps origin 0 items).bind fun values => .pure (Value.list values)).nested _
  | .binary op left right =>
      ((walk_keeps (0 :: origin) left).bind fun first => (walk_keeps (1 :: origin) right).bind
        fun second => .lift (applyOp op first second)).nested _

/-- Evaluating trees in their order leaves the counter where it was found. -/
theorem walk_all_keeps (origin : Origin) (index : Nat) : (exprs : List Expr) →
    Keeps (scope.walkAll calls origin index exprs) fun depth =>
      scope.evalAllAt calls depth origin index exprs
  | [] => .pure []
  | expr :: exprs =>
      (walk_keeps (index :: origin) expr).bind fun value =>
        (walk_all_keeps origin (index + 1) exprs).bind fun values => .pure (value :: values)

/-- Evaluating the step of a range leaves the counter where it was found. -/
theorem walk_step_keeps (origin : Origin) : (step : Option Expr) →
    Keeps (scope.walkStep calls origin step) fun depth => scope.evalStepAt calls depth origin step
  | none => .pure 1
  | some step => (walk_keeps origin step).bind fun value => .lift (boundOf value)
end

/-- Evaluating the segments of a template leaves the counter where it was found, at nought. -/
theorem walk_segments_outcome (origin : Origin) (index : Nat) (exprs : List Expr) :
    (scope.walkSegments calls origin index exprs).outcome 0 =
      (scope.evalSegments calls origin index exprs, 0) := by
  induction exprs generalizing index with
  | nil => rfl
  | cons expr exprs ih =>
      rw [walkSegments, evalSegments, outcome_bind, walk_keeps]
      dsimp only
      cases scope.evalAt calls 0 (index :: origin) expr with
      | error halt => rfl
      | ok value =>
          dsimp only
          rw [outcome_bind, ih]
          cases scope.evalSegments calls origin (index + 1) exprs <;> rfl

/-! ## Segments -/

variable {scope : Scope} {calls : Calls} {origin : Origin}

/-- The first segment is evaluated on its own, and the others go on behind it. -/
theorem eval_segments_cons (index : Nat) (expr : Expr) (exprs : List Expr) :
    scope.evalSegments calls origin index (expr :: exprs) = (do
      let first ← scope.evalSegments calls origin index [expr]
      let others ← scope.evalSegments calls origin (index + 1) exprs
      pure (first ++ others)) := by
  simp only [evalSegments]
  cases scope.evalAt calls 0 (index :: origin) expr <;> rfl

/-- Segments behind others are evaluated behind them, as the steps that follow. -/
theorem eval_segments_append (index : Nat) (exprs others : List Expr) :
    scope.evalSegments calls origin index (exprs ++ others) = (do
      let first ← scope.evalSegments calls origin index exprs
      let second ← scope.evalSegments calls origin (index + exprs.length) others
      pure (first ++ second)) := by
  induction exprs generalizing index with
  | nil => exact (bind_pure _).symm
  | cons expr exprs ih =>
      have hindex : index + (expr :: exprs).length = index + 1 + exprs.length := by
        rw [List.length_cons, Nat.add_right_comm]
        rfl
      rw [List.cons_append, eval_segments_cons, ih, eval_segments_cons index expr exprs, hindex]
      simp only [bind_assoc, pure_bind, List.append_assoc]

/-- A segment on its own has one value, or it halts the evaluation. -/
theorem eval_segments_singleton (index : Nat) (expr : Expr) :
    (∃ value, scope.evalSegments calls origin index [expr] = .ok [value]) ∨
      ∃ halt, scope.evalSegments calls origin index [expr] = .error halt := by
  rw [evalSegments]
  cases scope.evalAt calls 0 (index :: origin) expr with
  | ok value => exact .inl ⟨value.unwrapped, rfl⟩
  | error halt => exact .inr ⟨halt, rfl⟩

/-- The values are those of the segments, each evaluated on its own as the step of its place. -/
structure ValuesAlone (scope : Scope) (calls : Calls) (origin : Origin) (index : Nat)
    (exprs : List Expr) (values : List Value) : Prop where
  length_eq : values.length = exprs.length
  value_eq : ∀ (i : Nat) (hexpr : i < exprs.length) (hvalue : i < values.length),
    scope.evalSegments calls origin (index + i) [exprs[i]] = .ok [values[i]]

/-- The segment at the place halts the evaluation on its own, and it is the first one that does. -/
structure HaltsAlone (scope : Scope) (calls : Calls) (origin : Origin) (index : Nat)
    (exprs : List Expr) (halt : Halt) (place : Nat) : Prop where
  lt : place < exprs.length
  halt_eq : scope.evalSegments calls origin (index + place) [exprs[place]] = .error halt
  before : ∀ (i : Nat) (hi : i < place),
    ∃ value, scope.evalSegments calls origin (index + i) [exprs[i]] = .ok [value]

variable {index : Nat} {expr : Expr} {exprs : List Expr} {value : Value} {values : List Value}
  {halt : Halt} {place : Nat}

/-- A segment with a value in front of others with values. -/
theorem ValuesAlone.cons
    (hfirst : scope.evalSegments calls origin index [expr] = .ok [value])
    (h : ValuesAlone scope calls origin (index + 1) exprs values) :
    ValuesAlone scope calls origin index (expr :: exprs) (value :: values) where
  length_eq := congrArg (· + 1) h.length_eq
  value_eq i hexpr hvalue := by
    cases i with
    | zero => exact hfirst
    | succ i =>
        have hnext := h.value_eq i (Nat.lt_of_succ_lt_succ hexpr) (Nat.lt_of_succ_lt_succ hvalue)
        rwa [Nat.add_assoc, Nat.add_comm 1 i] at hnext

/-- A segment with a value in front of others of which one halts the evaluation. -/
theorem HaltsAlone.cons
    (hfirst : scope.evalSegments calls origin index [expr] = .ok [value])
    (h : HaltsAlone scope calls origin (index + 1) exprs halt place) :
    HaltsAlone scope calls origin index (expr :: exprs) halt (place + 1) where
  lt := Nat.succ_lt_succ h.lt
  halt_eq := by
    have hnext := h.halt_eq
    rwa [Nat.add_assoc, Nat.add_comm 1 place] at hnext
  before i hi := by
    cases i with
    | zero => exact ⟨value, hfirst⟩
    | succ i =>
        have hnext := h.before i (Nat.lt_of_succ_lt_succ hi)
        rwa [Nat.add_assoc, Nat.add_comm 1 i] at hnext

/-- Where all segments have values, none halts the evaluation. -/
theorem ValuesAlone.not_halts (h : ValuesAlone scope calls origin index exprs values) :
    ¬ HaltsAlone scope calls origin index exprs halt place := by
  intro hhalts
  have hvalue := h.value_eq place hhalts.lt (h.length_eq ▸ hhalts.lt)
  cases hhalts.halt_eq.symm.trans hvalue

/-- There is one first halt. -/
theorem HaltsAlone.unique {other : Halt} {later : Nat}
    (h : HaltsAlone scope calls origin index exprs halt place)
    (hother : HaltsAlone scope calls origin index exprs other later) : halt = other := by
  rcases Nat.lt_trichotomy place later with hlt | rfl | hlt
  · obtain ⟨value, hvalue⟩ := hother.before place hlt
    cases h.halt_eq.symm.trans hvalue
  · cases h.halt_eq.symm.trans hother.halt_eq
    rfl
  · obtain ⟨value, hvalue⟩ := h.before later hlt
    cases hother.halt_eq.symm.trans hvalue

/-- Segments together have the values that they have on their own, or the first that halts on its
own halts the evaluation. -/
theorem segments_together (index : Nat) (exprs : List Expr) :
    (∃ values, scope.evalSegments calls origin index exprs = .ok values ∧
        ValuesAlone scope calls origin index exprs values) ∨
      ∃ halt place, scope.evalSegments calls origin index exprs = .error halt ∧
        HaltsAlone scope calls origin index exprs halt place := by
  induction exprs generalizing index with
  | nil => exact .inl ⟨[], rfl, rfl, fun i hexpr => absurd hexpr (Nat.not_lt_zero i)⟩
  | cons expr exprs ih =>
      rw [eval_segments_cons]
      obtain ⟨value, hfirst⟩ | ⟨halt, hfirst⟩ :=
        @eval_segments_singleton scope calls origin index expr
      · rw [hfirst]
        obtain ⟨values, hvalues, halone⟩ | ⟨halt, place, hhalt, halone⟩ := ih (index + 1)
        · rw [hvalues]
          exact .inl ⟨value :: values, rfl, .cons hfirst halone⟩
        · rw [hhalt]
          exact .inr ⟨halt, place + 1, rfl, .cons hfirst halone⟩
      · rw [hfirst]
        exact .inr ⟨halt, 0, rfl, Nat.succ_pos _, hfirst, fun i hi => absurd hi (Nat.not_lt_zero i)⟩

/-- Whatever the context, the limit and the functions that can be called: evaluating a tree leaves
the depth counter where it was found, with a value or without one, and so does evaluating segments.
Therefore segments have values exactly if each of them has one on its own, which are then the values
in the order of the segments, one for each; otherwise the first segment that halts on its own halts
the evaluation. The values of segments behind others are the values of both, one behind the other. A
segment on its own is evaluated as the step of its place, since the closures that it makes are told
apart by that. -/
theorem segments_are_independent (scope : Scope) (calls : Calls) (origin : Origin) :
    (∀ (step : Origin) (expr : Expr) (depth : Nat),
      (scope.walk calls step expr).outcome depth = (scope.evalAt calls depth step expr, depth)) ∧
    (∀ (index : Nat) (exprs : List Expr),
      (scope.walkSegments calls origin index exprs).outcome 0 =
        (scope.evalSegments calls origin index exprs, 0)) ∧
    (∀ (index : Nat) (exprs : List Expr),
      let together := scope.evalSegments calls origin index exprs
      ((∃ values, together = .ok values) ↔ ∀ (i : Nat) (hi : i < exprs.length),
        ∃ values, scope.evalSegments calls origin (index + i) [exprs[i]] = .ok values) ∧
      (∀ values, together = .ok values → ValuesAlone scope calls origin index exprs values) ∧
      (∀ halt, together = .error halt ↔
        ∃ place, HaltsAlone scope calls origin index exprs halt place)) ∧
    ∀ (index : Nat) (exprs others : List Expr),
      scope.evalSegments calls origin index (exprs ++ others) = (do
        let first ← scope.evalSegments calls origin index exprs
        let second ← scope.evalSegments calls origin (index + exprs.length) others
        pure (first ++ second)) := by
  refine ⟨fun step expr depth => walk_keeps scope calls step expr depth,
    walk_segments_outcome scope calls origin, fun index exprs => ?_, eval_segments_append⟩
  intro together
  obtain ⟨values, hvalues, halone⟩ | ⟨halt, place, hhalt, halone⟩ : _ ∨ _ :=
    @segments_together scope calls origin index exprs
  · refine ⟨⟨fun _ i hi => ⟨_, halone.value_eq i hi (halone.length_eq ▸ hi)⟩,
      fun _ => ⟨values, hvalues⟩⟩, fun others hothers => ?_, fun halt => ⟨fun hhalt => ?_, ?_⟩⟩
    · obtain rfl := Except.ok.inj (hvalues.symm.trans hothers)
      exact halone
    · cases hvalues.symm.trans hhalt
    · rintro ⟨place, hhalts⟩
      exact absurd hhalts halone.not_halts
  · refine ⟨⟨?_, fun hall => ?_⟩, fun values hvalues => ?_, fun other => ⟨fun hother => ?_, ?_⟩⟩
    · rintro ⟨values, hvalues⟩
      cases hhalt.symm.trans hvalues
    · obtain ⟨values, hvalues⟩ := hall place halone.lt
      cases halone.halt_eq.symm.trans hvalues
    · cases hhalt.symm.trans hvalues
    · obtain rfl := Except.error.inj (hhalt.symm.trans hother)
      exact ⟨place, halone⟩
    · rintro ⟨later, hothers⟩
      rw [halone.unique hothers] at hhalt
      exact hhalt

/-- Under the limit two the first and the last segment use up all levels of nesting. The one between
them fails within a range, and so it is the first that halts. -/
theorem segments_are_independent_of_failing_bound :
    let scope : Scope := ⟨.empty, .standard, 2⟩
    let calls : Calls := .within (fun _ => .standard) 0
    let first : Expr := .list [.literal (.int 1)]
    let failing : Expr := .range (.literal (.int 1)) (.literal (.str "x")) none
    let halt : Halt := .fault (.invalidRangeBound "\"x\"")
    (∃ place, HaltsAlone scope calls [] 0 [first, failing, first] halt place) ∧
      (scope.walkSegments calls [] 0 [first, failing, first]).outcome 0 = (.error halt, 0) ∧
      scope.evalSegments calls [] 0 ([first] ++ [first]) =
        .ok [.list [.int 1], .list [.int 1]] := by
  intro scope calls first failing halt
  obtain ⟨-, hcounter, htogether, happend⟩ := segments_are_independent scope calls []
  have hhalt : scope.evalSegments calls [] 0 [first, failing, first] = .error halt := by rfl
  refine ⟨((htogether 0 _).2.2 halt).mp hhalt, ?_, ?_⟩
  · rw [hcounter, hhalt]
  · rw [happend]
    rfl

end Scope

end TextTemplate
