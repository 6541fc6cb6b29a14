import TextTemplate.Proofs.Eval.Endless
import TextTemplate.Proofs.Expr.Nodes
import TextTemplate.Proofs.Value.Pruned

/-!
# Values of two runs

Two evaluations in contexts that differ have closures with contexts that differ, so their values are
not equal. They are alike (`Value.Alike`): equal, but for what their closures have in their contexts
under keys that their bodies do not refer to. What the evaluator does with values that are alike has
alike results.
-/

namespace TextTemplate

/-- The closure belongs to the standard library, the keys of its context are in lower case, and its
body refers to no variables but those among the keys. -/
structure Closure.Sees (keys : List String) (closure : Closure) : Prop where
  standard : closure.resolver = .standard
  lower : closure.context.HasLowerKeys
  atoms : Expr.AtomsWithin keys (Expr.nodesOfAll closure.body)

/-- The values are equal, but for what their closures have in their contexts under keys other than
the given ones, which the closures do not refer to. -/
structure Value.Alike (keys : List String) (first second : Value) : Prop where
  first_sees : first.Every (Closure.Sees keys)
  second_sees : second.Every (Closure.Sees keys)
  pruned_eq : first.pruned keys = second.pruned keys

/-- The contexts have alike values under each of the keys. -/
structure Context.Alike (keys : List String) (first second : Context) : Prop where
  first_lower : first.HasLowerKeys
  second_lower : second.HasLowerKeys
  first_sees : first.Every (Closure.Sees keys)
  second_sees : second.Every (Closure.Sees keys)
  get?_eq : ∀ key ∈ keys,
    (first.get? key).map (Value.pruned keys) = (second.get? key).map (Value.pruned keys)

/-- Both outcomes are values in the relation, or they are the same error. -/
inductive Agree {ε α : Type} (R : α → α → Prop) : Except ε α → Except ε α → Prop where
  | ok {first second : α} : R first second → Agree R (.ok first) (.ok second)
  | error (reason : ε) : Agree R (.error reason) (.error reason)

variable {ε α β : Type} {keys : List String}

namespace Agree

variable {R : α → α → Prop} {S : β → β → Prop}

/-- What is computed from outcomes that agree agrees. -/
theorem bind {first second : Except ε α} {next later : α → Except ε β} (h : Agree R first second)
    (hnext : ∀ x y, R x y → Agree S (next x) (later y)) :
    Agree S (first >>= next) (second >>= later) := by
  cases h with
  | ok hvalues => exact hnext _ _ hvalues
  | error reason => exact .error reason

/-- An outcome agrees with itself. -/
theorem of_eq {first second : Except ε α} (h : first = second) : Agree Eq first second := by
  subst h
  cases first with
  | ok value => exact .ok rfl
  | error reason => exact .error reason

/-- Outcomes that agree are equal behind a function that has equal values for related values. -/
theorem map_eq {first second : Except ε α} (h : Agree R first second) {f : α → β}
    (hf : ∀ x y, R x y → f x = f y) : first.map f = second.map f := by
  cases h with
  | ok hvalues => exact congrArg Except.ok (hf _ _ hvalues)
  | error reason => rfl

end Agree

namespace Value.Alike

variable {first second : Value}

/-- A value without closures is like itself. -/
theorem of_closure_free {value : Value} (h : value.ClosureFree) : Alike keys value value :=
  ⟨h.mono fun _ hfalse => hfalse.elim, h.mono fun _ hfalse => hfalse.elim, rfl⟩

/-- What does not depend on the contexts of closures is the same for values that are alike. -/
theorem congr (h : Alike keys first second) {f : Value → α}
    (hf : ∀ value : Value, f (value.pruned keys) = f value) : f first = f second := by
  rw [← hf first, h.pruned_eq, hf]

/-- Properties of values that are alike are alike. -/
theorem lookup (h : Alike keys first second) (key : String) :
    Alike keys (first.lookup key) (second.lookup key) where
  first_sees := h.first_sees.lookup key
  second_sees := h.second_sees.lookup key
  pruned_eq := by rw [← lookup_pruned, h.pruned_eq, lookup_pruned]

/-- What alike indices select from alike values is alike. -/
theorem access (h : Alike keys first second) {index place : Value}
    (hindex : Alike keys index place) : Alike keys (first.access index) (second.access place) where
  first_sees := h.first_sees.access index
  second_sees := h.second_sees.access place
  pruned_eq := by rw [← access_pruned, h.pruned_eq, hindex.pruned_eq, access_pruned]

/-- What alike maps stand for is alike. -/
theorem unwrapped (h : Alike keys first second) : Alike keys first.unwrapped second.unwrapped where
  first_sees := h.first_sees.unwrapped
  second_sees := h.second_sees.unwrapped
  pruned_eq := by rw [← unwrapped_pruned, h.pruned_eq, unwrapped_pruned]

/-- Lists of alike items are alike. -/
theorem list {xs ys : List Value} (h : List.Forall₂ (Alike keys) xs ys) :
    Alike keys (.list xs) (.list ys) := by
  induction h with
  | nil => exact of_closure_free (every_list.mpr (List.forall_mem_nil _))
  | cons hitem _ ih =>
      have hrest := ih.pruned_eq
      rw [pruned_list, pruned_list, Value.list.injEq] at hrest
      exact
        { first_sees := every_list.mpr
            (List.forall_mem_cons.mpr ⟨hitem.first_sees, every_list.mp ih.first_sees⟩)
          second_sees := every_list.mpr
            (List.forall_mem_cons.mpr ⟨hitem.second_sees, every_list.mp ih.second_sees⟩)
          pruned_eq := by
            rw [pruned_list, pruned_list, List.map_cons, List.map_cons, hitem.pruned_eq, hrest] }

/-- The items of alike lists are alike. -/
theorem items {xs ys : List Value} (h : Alike keys (.list xs) (.list ys)) :
    List.Forall₂ (Alike keys) xs ys := by
  induction xs generalizing ys with
  | nil =>
      cases ys with
      | nil => exact .nil
      | cons y ys => simpa using h.pruned_eq
  | cons x xs ih =>
      cases ys with
      | nil => simpa using h.pruned_eq
      | cons y ys =>
          obtain ⟨hx, hxs⟩ := List.forall_mem_cons.mp (every_list.mp h.first_sees)
          obtain ⟨hy, hys⟩ := List.forall_mem_cons.mp (every_list.mp h.second_sees)
          have hpruned := h.pruned_eq
          rw [pruned_list, pruned_list, Value.list.injEq, List.map_cons, List.map_cons,
            List.cons.injEq] at hpruned
          refine .cons ⟨hx, hy, hpruned.1⟩ (ih ⟨every_list.mpr hxs, every_list.mpr hys, ?_⟩)
          rw [pruned_list, pruned_list, hpruned.2]

/-- A value that is like a closure is a closure. -/
theorem exists_closure {closure : Closure} {other : Value}
    (h : Alike keys (.closure closure) other) : ∃ later, other = .closure later := by
  have hpruned := h.pruned_eq
  rw [pruned_closure] at hpruned
  cases other with
  | closure later => exact ⟨later, rfl⟩
  | _ => simp [pruned] at hpruned

/-- The relation is symmetric. -/
theorem symm (h : Alike keys first second) : Alike keys second first :=
  ⟨h.second_sees, h.first_sees, h.pruned_eq.symm⟩

/-- Closures that are alike have the same body, whose variables are among the keys, the same limit,
and contexts that are alike. -/
theorem of_closures {c d : Closure} (h : Alike keys (.closure c) (.closure d)) :
    c.Sees keys ∧ d.Sees keys ∧ c.context.Alike keys d.context ∧ c.body = d.body ∧
      c.maxDepth = d.maxDepth := by
  obtain ⟨hfirst, hcontext⟩ := closure_every_iff.mp (every_closure.mp h.first_sees)
  obtain ⟨hsecond, hlater⟩ := closure_every_iff.mp (every_closure.mp h.second_sees)
  have hpruned := h.pruned_eq
  cases c
  cases d
  rw [pruned_closure, pruned_closure, Value.closure.injEq, Closure.pruned, Closure.pruned,
    Closure.mk.injEq, restricted_eq_iff] at hpruned
  obtain ⟨hget, hbody, -, hdepth, -⟩ := hpruned
  refine ⟨hfirst, hsecond, ⟨hfirst.lower, hsecond.lower, hcontext, hlater, fun key hkey => ?_⟩,
    hbody, hdepth⟩
  rw [← get?_pruned, ← get?_pruned, hget key hkey]

end Value.Alike

/-! ## Contexts -/

namespace Context.Alike

variable {first second : Context}

/-- What alike contexts have under one of the keys is alike. -/
theorem get?_getD (h : Alike keys first second) {key : String} (hkey : key ∈ keys) :
    Value.Alike keys ((first.get? key).getD .null) ((second.get? key).getD .null) where
  first_sees := h.first_sees.get?_getD key
  second_sees := h.second_sees.get?_getD key
  pruned_eq := by rw [pruned_get_d, pruned_get_d, h.get?_eq key hkey]

/-- Alike contexts with alike arguments are alike. -/
theorem with_captures (h : Alike keys first second) {xs ys : List Value}
    (hargs : List.Forall₂ (Value.Alike keys) xs ys) :
    Alike keys (first.withCaptures xs) (second.withCaptures ys) where
  first_lower := h.first_lower.with_captures xs
  second_lower := h.second_lower.with_captures ys
  first_sees := h.first_sees.with_captures (every_list.mp (Value.Alike.list hargs).first_sees)
  second_sees := h.second_sees.with_captures (every_list.mp (Value.Alike.list hargs).second_sees)
  get?_eq key hkey := by
    rw [withCaptures, withCaptures, h.first_lower.get?_insert, h.second_lower.get?_insert]
    split
    · rw [Option.map_some, Option.map_some, (Value.Alike.list hargs).pruned_eq]
    · exact h.get?_eq key hkey

/-- Properties of a variable among the keys are alike. -/
theorem variable_property (h : Alike keys first second) {name : String} (hname : name ∈ keys)
    (key : String) : Value.Alike keys (Scope.variableProperty first name key)
      (Scope.variableProperty second name key) where
  first_sees := h.first_sees.variable_property name key
  second_sees := h.second_sees.variable_property name key
  pruned_eq := by
    rw [variable_property_pruned, variable_property_pruned, Scope.variableProperty,
      Scope.variableProperty, get?_pruned, get?_pruned, h.get?_eq name hname]

/-- The arguments of a lambda are alike. -/
theorem capture (h : Alike keys first second) (hcaptures : capturesKey ∈ keys) (index : UInt64) :
    Value.Alike keys (first.capture index) (second.capture index) where
  first_sees := h.first_sees.capture index
  second_sees := h.second_sees.capture index
  pruned_eq := by
    rw [capture_pruned, capture_pruned, Context.capture, Context.capture, get?_pruned,
      get?_pruned, h.get?_eq capturesKey hcaptures]

/-- The closures that a lambda becomes in alike contexts are alike. -/
theorem closure (h : Alike keys first second) {body : List Expr}
    (hbody : Expr.AtomsWithin keys (Expr.nodesOfAll body)) (maxDepth : Nat) (origin : Origin) :
    Value.Alike keys (.closure ⟨first, body, .standard, maxDepth, origin⟩)
      (.closure ⟨second, body, .standard, maxDepth, origin⟩) where
  first_sees := every_closure.mpr
    (closure_every_iff.mpr ⟨⟨rfl, h.first_lower, hbody⟩, h.first_sees⟩)
  second_sees := every_closure.mpr
    (closure_every_iff.mpr ⟨⟨rfl, h.second_lower, hbody⟩, h.second_sees⟩)
  pruned_eq := by
    have hrestricted : (first.pruned keys).restricted keys = (second.pruned keys).restricted keys :=
      restricted_eq_iff.mpr fun key hkey => by rw [get?_pruned, get?_pruned, h.get?_eq key hkey]
    rw [pruned_closure, pruned_closure, Closure.pruned, Closure.pruned, hrestricted]

end Context.Alike

/-! ## The standard library -/

variable {invoke later : Invoke}

/-- Both ways to call closures have outcomes that agree for alike closures and arguments. -/
def Invoke.Alike (keys : List String) (invoke later : Invoke) : Prop :=
  ∀ c d : Closure, Value.Alike keys (.closure c) (.closure d) →
    ∀ xs ys, List.Forall₂ (Value.Alike keys) xs ys → ∀ origin,
      Agree (Value.Alike keys) (invoke c xs origin) (later d ys origin)

/-- Outcomes that are equal when they are pruned agree. -/
theorem agree_of_pruned {first second : Except ε Value}
    (hfirst : ∀ value, first = .ok value → value.Every (Closure.Sees keys))
    (hsecond : ∀ value, second = .ok value → value.Every (Closure.Sees keys))
    (h : first.map (Value.pruned keys) = second.map (Value.pruned keys)) :
    Agree (Value.Alike keys) first second := by
  cases first with
  | ok x =>
      cases second with
      | ok y => exact .ok ⟨hfirst x rfl, hsecond y rfl, Except.ok.inj h⟩
      | error => cases h
  | error reason =>
      cases second with
      | ok y => cases h
      | error other =>
          cases h
          exact .error reason

/-- Calling alike closures on alike items has alike values. -/
theorem agree_map_items (hinvoke : invoke.Alike keys later) {first second : Call}
    (horigin : first.origin = second.origin) {c d : Closure}
    (hclosure : Value.Alike keys (.closure c) (.closure d)) {xs ys : List Value}
    (hitems : List.Forall₂ (Value.Alike keys) xs ys) (step : Nat) :
    Agree (List.Forall₂ (Value.Alike keys))
      (StandardFunction.mapItems invoke first c step xs)
      (StandardFunction.mapItems later second d step ys) := by
  induction hitems generalizing step with
  | nil => exact .ok .nil
  | @cons x y xs ys hitem hrest ih =>
      have hone : Agree (Value.Alike keys) (first.invoke invoke step c [x])
          (second.invoke later step d [y]) := by
        have hcall := hinvoke c d hclosure [x] [y] (.cons hitem .nil) (step :: second.origin)
        rw [Call.invoke, Call.invoke, horigin]
        revert hcall
        generalize invoke c [x] (step :: second.origin) = one
        generalize later d [y] (step :: second.origin) = two
        rintro (hvalues | halt)
        · exact .ok hvalues
        · exact .error _
      refine hone.bind fun value other hvalue => ?_
      exact (ih (step + 1)).bind fun values others hvalues => .ok (.cons hvalue hvalues)

/-- What can be walked through is alike in alike values. -/
theorem alike_elements {first second : Value} (h : Value.Alike keys first second) :
    (StandardFunction.elementsOf? first = none ∧ StandardFunction.elementsOf? second = none) ∨
      ∃ xs ys, StandardFunction.elementsOf? first = some xs ∧
        StandardFunction.elementsOf? second = some ys ∧
        List.Forall₂ (Value.Alike keys) xs ys := by
  have hpruned := congrArg StandardFunction.elementsOf? h.pruned_eq
  rw [elements_of?_pruned, elements_of?_pruned] at hpruned
  cases hxs : StandardFunction.elementsOf? first with
  | none =>
      rw [hxs, Option.map_none, eq_comm, Option.map_eq_none_iff] at hpruned
      exact .inl ⟨rfl, hpruned⟩
  | some xs =>
      rw [hxs, Option.map_some, eq_comm, Option.map_eq_some_iff] at hpruned
      obtain ⟨ys, hys, heq⟩ := hpruned
      refine .inr ⟨xs, ys, rfl, hys, Value.Alike.items ⟨?_, ?_, ?_⟩⟩
      · exact every_list.mpr (StandardFunction.elements_every h.first_sees hxs)
      · exact every_list.mpr (StandardFunction.elements_every h.second_sees hys)
      · rw [pruned_list, pruned_list, heq]

/-- A second argument of `map` that is no closure is an error. -/
theorem answer_map_of_not_closure {name : String} {collection function : Value} {context : Context}
    {origin : Origin} (h : ∀ closure, function ≠ .closure closure) :
    StandardFunction.answer invoke ⟨name, [collection, function], context, origin⟩ .map =
      .error (.invalidArgument name ("expected a function, got " ++ function.typeName)) := by
  cases function with
  | closure closure => exact absurd rfl (h closure)
  | _ => rfl

/-- Calls of `map` on alike arguments agree. -/
theorem agree_map (hinvoke : invoke.Alike keys later) {first second : Call}
    (hname : first.name = second.name) (horigin : first.origin = second.origin)
    (hargs : List.Forall₂ (Value.Alike keys) first.args second.args) :
    Agree (Value.Alike keys) (StandardFunction.answer invoke first .map)
      (StandardFunction.answer later second .map) := by
  obtain ⟨name, args, context, origin⟩ := first
  obtain ⟨_, others, other, _⟩ := second
  cases hname
  cases horigin
  -- Only two arguments can be right, and of these only a closure as the second one.
  rcases hargs with _ | ⟨hcollection, _ | ⟨hfunction, _ | ⟨_, hmore⟩⟩⟩
  case cons.cons.nil collection another function later =>
    by_cases hclosure : ∃ c, function = .closure c
    · obtain ⟨c, rfl⟩ := hclosure
      obtain ⟨d, rfl⟩ := hfunction.exists_closure
      rw [StandardFunction.answer, StandardFunction.answer]
      rcases alike_elements hcollection with ⟨hxs, hys⟩ | ⟨xs, ys, hxs, hys, hitems⟩
      · simp only [hxs, hys, hcollection.congr type_name_pruned]
        exact .error _
      · simp only [hxs, hys]
        refine Agree.bind (agree_map_items hinvoke ?_ hfunction hitems 0) fun _ _ hvalues => ?_
        · rfl
        · exact .ok (Value.Alike.list hvalues)
    · rw [answer_map_of_not_closure fun c heq => hclosure ⟨c, heq⟩,
        answer_map_of_not_closure fun d heq => hclosure (heq ▸ hfunction).symm.exists_closure,
        hfunction.congr type_name_pruned]
      exact .error _
  case cons.cons.cons =>
    simp only [StandardFunction.answer, Call.arityError, List.length_cons, hmore.length_eq]
    exact .error _
  all_goals exact .error _

/-- Calls of the standard library on alike arguments agree. -/
theorem agree_standard (hinvoke : invoke.Alike keys later) {first second : Call}
    (hname : first.name = second.name) (horigin : first.origin = second.origin)
    (hargs : List.Forall₂ (Value.Alike keys) first.args second.args) :
    Agree (Value.Alike keys) (Library.standard invoke first) (Library.standard later second) := by
  rw [Library.standard, Library.standard, hname]
  cases StandardFunction.ofName? second.name with
  | none => exact .error _
  | some function =>
      by_cases hmap : function = .map
      · subst hmap
        exact agree_map hinvoke hname horigin hargs
      · have hlists := Value.Alike.list hargs
        refine agree_of_pruned
          (fun _ => StandardFunction.answer_every hmap (every_list.mp hlists.first_sees))
          (fun _ => StandardFunction.answer_every hmap (every_list.mp hlists.second_sees)) ?_
        -- Both answers are the answer for the pruned arguments.
        have hpruned := hlists.pruned_eq
        rw [pruned_list, pruned_list, Value.list.injEq] at hpruned
        let pruned : Call := ⟨second.name, second.args.map (Value.pruned keys), .empty, []⟩
        have hone : function.answer later pruned =
            (function.answer invoke first).map (Value.pruned keys) :=
          answer_pruned hmap hname.symm hpruned.symm
        have htwo : function.answer later pruned =
            (function.answer later second).map (Value.pruned keys) :=
          answer_pruned hmap rfl rfl
        exact hone.symm.trans htwo

end TextTemplate
