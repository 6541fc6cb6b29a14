import TextTemplate.Proofs.Eval.Alike

/-!
# Outcomes that outlast others

Of two runs that differ in their limits on nesting, the one with the greater limit outlasts the
other: it has the same outcome, but for changes of closures, unless the other one was cut off
(`Outlasts`). What is computed from outcomes that outlast others outlasts what is computed from
these, and so the standard library passes the relation on from the closures that it calls
(`outlasts_standard`).
-/

namespace TextTemplate

/-- The evaluation was halted by the limit on nesting. -/
def Halt.IsOverflow : Halt → Prop
  | .fault error => error.isResourceExceeded
  | .exhausted => False

/-- The function called a closure whose evaluation was halted by the limit on nesting. -/
def CallError.IsOverflow : CallError → Prop
  | .halted halt => halt.IsOverflow
  | _ => False

/-- The second outcome outlasts the first one: a value with `Q` turns up changed by `f`, and an
error that is no overflow as the same error; but where the first outcome is an overflow, the second
one may be any. This last case is excluded unless limits may be `tight`. -/
inductive Outlasts {ε α β : Type} (tight : Prop) (cuts : ε → Prop) (Q : α → Prop) (f : α → β) :
    Except ε α → Except ε β → Prop where
  | ok {value : α} (h : Q value) : Outlasts tight cuts Q f (.ok value) (.ok (f value))
  | error {reason : ε} (h : ¬ cuts reason) :
      Outlasts tight cuts Q f (.error reason) (.error reason)
  | cut {reason : ε} (htight : tight) (h : cuts reason) (outcome : Except ε β) :
      Outlasts tight cuts Q f (.error reason) outcome

namespace Outlasts

variable {ε α β γ δ : Type} {tight : Prop} {cuts : ε → Prop} {Q : α → Prop} {f : α → β}
  {R : γ → Prop} {g : γ → δ} {first : Except ε α} {second : Except ε β}

/-- What is computed from an outcome that outlasts another one outlasts what is computed from that
one. -/
theorem bind (h : Outlasts tight cuts Q f first second) {next : α → Except ε γ}
    {later : β → Except ε δ}
    (hnext : ∀ value, Q value → Outlasts tight cuts R g (next value) (later (f value))) :
    Outlasts tight cuts R g (first >>= next) (second >>= later) := by
  cases h with
  | ok hvalue => exact hnext _ hvalue
  | error hreason => exact .error hreason
  | cut htight hcut outcome => exact .cut htight hcut _

/-- An outcome that is no overflow is outlasted by itself, changed. -/
theorem of_map (hvalue : ∀ value, first = .ok value → Q value)
    (hreason : ∀ reason, first = .error reason → ¬ cuts reason) :
    Outlasts tight cuts Q f first (first.map f) := by
  cases first with
  | ok value => exact .ok (hvalue value rfl)
  | error reason => exact .error (hreason reason rfl)

/-- What outlasts an outcome that is no overflow is that outcome, changed. -/
theorem eq_map (h : Outlasts tight cuts Q f first second)
    (hcut : ∀ reason, first = .error reason → ¬ cuts reason) : second = first.map f := by
  cases h with
  | ok _ => rfl
  | error _ => rfl
  | cut _ h _ => exact absurd h (hcut _ rfl)

/-- Where no limit is tight, an error is no overflow. -/
theorem not_cut (h : Outlasts False cuts Q f first second) {reason : ε}
    (heq : first = .error reason) : ¬ cuts reason := by
  cases h with
  | ok _ => cases heq
  | error h => exact Except.error.inj heq ▸ h
  | cut htight _ _ => exact htight.elim

end Outlasts

/-! ## Closures that are called -/

variable {tight : Prop} {P : Closure → Prop} {change : Closure.Change} {invoke later : Invoke}

/-- The call of the changed closure on the changed arguments. -/
def Invocation.changed (change : Closure.Change) (call : Invocation) : Invocation :=
  ⟨call.closure.changed change, call.args.map (Value.changed change), call.origin⟩

/-- Calls of changed closures outlast the calls of the closures, for closures with `P`. -/
def Invoke.OutlastedBy (tight : Prop) (P : Closure → Prop) (change : Closure.Change)
    (invoke later : Invoke) : Prop :=
  ∀ call : Invocation, call.Every P →
    Outlasts tight Halt.IsOverflow (Value.Every P) (Value.changed change)
      (call.answer invoke) ((call.changed change).answer later)

/-- A call by a function passes the relation on. -/
theorem outlasts_call_invoke (hinvoke : invoke.OutlastedBy tight P change later)
    {first second : Call} (horigin : first.origin = second.origin) {closure : Closure}
    (hclosure : closure.Every P) {item : Value} (hitem : item.Every P) (step : Nat) :
    Outlasts tight CallError.IsOverflow (Value.Every P) (Value.changed change)
      (first.invoke invoke step closure [item])
      (second.invoke later step (closure.changed change) [item.changed change]) := by
  have hcall : Outlasts tight Halt.IsOverflow (Value.Every P) (Value.changed change)
      (invoke closure [item] (step :: second.origin))
      (later (closure.changed change) [item.changed change] (step :: second.origin)) :=
    hinvoke ⟨closure, [item], step :: second.origin⟩
      ⟨hclosure, List.forall_mem_singleton.mpr hitem⟩
  rw [Call.invoke, Call.invoke, horigin]
  revert hcall
  generalize invoke closure [item] (step :: second.origin) = one
  generalize later (closure.changed change) [item.changed change] (step :: second.origin) = two
  rintro (hvalue | hreason | @⟨halt, htight, hcut, _⟩)
  · exact .ok hvalue
  · exact .error hreason
  · have hcall : CallError.IsOverflow (.halted halt) := hcut
    exact .cut htight hcall _

/-- Calling a closure on each item passes the relation on. -/
theorem outlasts_map_items (hinvoke : invoke.OutlastedBy tight P change later) {first second : Call}
    (horigin : first.origin = second.origin) {closure : Closure} (hclosure : closure.Every P)
    {items : List Value} (hitems : ∀ item ∈ items, item.Every P) (step : Nat) :
    Outlasts tight CallError.IsOverflow (fun values => ∀ value ∈ values, value.Every P)
      (List.map (Value.changed change))
      (StandardFunction.mapItems invoke first closure step items)
      (StandardFunction.mapItems later second (closure.changed change) step
        (items.map (Value.changed change))) := by
  induction items generalizing step with
  | nil => exact .ok (List.forall_mem_nil _)
  | cons item items ih =>
      obtain ⟨hitem, hrest⟩ := List.forall_mem_cons.mp hitems
      refine (outlasts_call_invoke hinvoke horigin hclosure hitem step).bind fun value hvalue => ?_
      exact (ih hrest (step + 1)).bind fun values hvalues =>
        .ok (List.forall_mem_cons.mpr ⟨hvalue, hvalues⟩)

/-- A value that is no closure is none when it is changed. -/
theorem changed_ne_closure {value : Value} (h : ∀ closure, value ≠ .closure closure)
    (closure : Closure) : value.changed change ≠ .closure closure := by
  cases value with
  | closure closure => exact absurd rfl (h closure)
  | _ => exact nofun

/-- Too many arguments of `map` are an error, whatever they are. -/
theorem answer_map_of_many {name : String} (x y z : Value) (more : List Value) {context : Context}
    {origin : Origin} :
    StandardFunction.answer invoke ⟨name, x :: y :: z :: more, context, origin⟩ .map =
      .error (.arity name "2" (more.length + 3)) := by
  cases y <;> rfl

/-- Calls of `map` pass the relation on. -/
theorem outlasts_map (hinvoke : invoke.OutlastedBy tight P change later) {name : String}
    {args : List Value} (hargs : ∀ arg ∈ args, arg.Every P) {context other : Context}
    (origin : Origin) :
    Outlasts tight CallError.IsOverflow (Value.Every P) (Value.changed change)
      (StandardFunction.answer invoke ⟨name, args, context, origin⟩ .map)
      (StandardFunction.answer later
        ⟨name, args.map (Value.changed change), other, origin⟩ .map) := by
  -- Only two arguments can be right, and of these only a closure as the second one.
  rcases args with _ | ⟨collection, _ | ⟨function, _ | ⟨_, more⟩⟩⟩
  case cons.cons.nil =>
    obtain ⟨hcollection, hfunction⟩ := List.forall_mem_cons.mp hargs
    by_cases hclosure : ∃ closure, function = .closure closure
    · obtain ⟨closure, rfl⟩ := hclosure
      have hclosure : closure.Every P := every_closure.mp (List.forall_mem_singleton.mp hfunction)
      simp only [List.map_cons, List.map_nil, changed_closure, StandardFunction.answer,
        elements_of?_changed, type_name_changed]
      cases hitems : StandardFunction.elementsOf? collection with
      | none => exact .error id
      | some items =>
          have hmembers := StandardFunction.elements_every hcollection hitems
          refine (outlasts_map_items hinvoke ?_ hclosure hmembers 0).bind fun values hvalues => ?_
          · rfl
          · rw [← changed_list]
            exact .ok (every_list.mpr hvalues)
    · have hfunction : ∀ closure, function ≠ .closure closure :=
        fun closure heq => hclosure ⟨closure, heq⟩
      rw [List.map_cons, List.map_cons, List.map_nil, answer_map_of_not_closure hfunction,
        answer_map_of_not_closure (changed_ne_closure hfunction), type_name_changed]
      exact .error id
  case cons.cons.cons =>
    simp only [List.map_cons, answer_map_of_many, List.length_map]
    exact .error id
  all_goals exact .error id

/-- Calls of the standard library pass the relation on. -/
theorem outlasts_standard (hinvoke : invoke.OutlastedBy tight P change later) (name : String)
    {args : List Value} (hargs : ∀ arg ∈ args, arg.Every P) (context other : Context)
    (origin : Origin) :
    Outlasts tight CallError.IsOverflow (Value.Every P) (Value.changed change)
      (Library.standard invoke ⟨name, args, context, origin⟩)
      (Library.standard later ⟨name, args.map (Value.changed change), other, origin⟩) := by
  rw [Library.standard, Library.standard]
  cases StandardFunction.ofName? name with
  | none => exact .error id
  | some function =>
      by_cases hmap : function = .map
      · subst hmap
        exact outlasts_map hinvoke hargs origin
      · -- Other functions call no closures, and their answers do not depend on changes.
        have hanswer : ∀ halt, function.answer invoke ⟨name, args, context, origin⟩ ≠
            .error (.halted halt) :=
          StandardFunction.answer_ne_halted hmap
        have hsame : function.answer later ⟨name, args.map (Value.changed change), other, origin⟩ =
            (function.answer invoke ⟨name, args, context, origin⟩).map (Value.changed change) :=
          answer_changed hmap rfl rfl
        dsimp only
        rw [hsame]
        refine .of_map (fun value => StandardFunction.answer_every hmap hargs) fun reason heq => ?_
        cases reason with
        | halted halt => exact absurd heq (hanswer halt)
        | _ => exact id

end TextTemplate
