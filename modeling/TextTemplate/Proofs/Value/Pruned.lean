import TextTemplate.Proofs.Value.Changed

/-!
# Pruned values

`Value.pruned keys` cuts the contexts of all closures within a value down to the given keys. This is
a change of closures (`pruned_eq_changed`), so that what a value shows, how it compares and what can
be selected from it does not depend on what is cut off.
-/

namespace TextTemplate

/-- The part of the context that is looked up under the keys. -/
def Context.restricted (keys : List String) (context : Context) : Context :=
  ⟨keys.filterMap fun key => (context.get? key).map fun value => (key, value)⟩

mutual
/-- The value, where every closure keeps of its context only what is under the keys. -/
def Value.pruned (keys : List String) : Value → Value
  | .list items => .list (Value.prunedItems keys items)
  | .map context => .map (Context.pruned keys context)
  | .closure closure => .closure (Closure.pruned keys closure)
  | value => value

/-- The context with pruned values, under all its keys. -/
def Context.pruned (keys : List String) : Context → Context
  | ⟨entries⟩ => ⟨Context.prunedEntries keys entries⟩

/-- The closure with what is under the keys of its context, pruned. -/
def Closure.pruned (keys : List String) : Closure → Closure
  | ⟨context, body, resolver, maxDepth, origin⟩ =>
    ⟨(Context.pruned keys context).restricted keys, body, resolver, maxDepth, origin⟩

/-- The items, pruned. -/
def Value.prunedItems (keys : List String) : List Value → List Value
  | [] => []
  | item :: items => Value.pruned keys item :: Value.prunedItems keys items

/-- The entries with pruned values. -/
def Context.prunedEntries (keys : List String) : List (String × Value) → List (String × Value)
  | [] => []
  | (key, value) :: rest => (key, Value.pruned keys value) :: Context.prunedEntries keys rest
end

variable {keys : List String}

/-- Cuts the context of a closure down to the keys. -/
def Closure.Change.pruning (keys : List String) : Closure.Change where
  apply closure := { closure with context := closure.context.restricted keys }
  origin_apply _ := rfl

mutual
/-- Pruning a value changes the closures within it. -/
theorem pruned_eq_changed : (value : Value) → value.pruned keys = value.changed (.pruning keys)
  | .list items => by rw [Value.pruned, Value.changed, pruned_items_eq_changed]
  | .map context => by rw [Value.pruned, Value.changed, context_pruned_eq_changed]
  | .closure closure => by rw [Value.pruned, Value.changed, closure_pruned_eq_changed]
  | .null | .bool _ | .int _ | .float _ | .decimal _ | .str _ | .dateTime _ | .range _ => rfl

/-- Pruning a context changes the closures within it. -/
theorem context_pruned_eq_changed : (context : Context) →
    context.pruned keys = context.changed (.pruning keys)
  | ⟨entries⟩ => by rw [Context.pruned, Context.changed, pruned_entries_eq_changed]

/-- Pruning a closure changes it and the closures within its context. -/
theorem closure_pruned_eq_changed : (closure : Closure) →
    closure.pruned keys = closure.changed (.pruning keys)
  | ⟨context, body, resolver, maxDepth, origin⟩ => by
      rw [Closure.pruned, Closure.changed, context_pruned_eq_changed context]
      rfl

/-- Pruning items changes the closures within them. -/
theorem pruned_items_eq_changed : (items : List Value) →
    Value.prunedItems keys items = Value.changedItems (.pruning keys) items
  | [] => rfl
  | item :: items => by
      rw [Value.prunedItems, Value.changedItems, pruned_eq_changed item,
        pruned_items_eq_changed items]

/-- Pruning entries changes the closures within them. -/
theorem pruned_entries_eq_changed : (entries : List (String × Value)) →
    Context.prunedEntries keys entries = Context.changedEntries (.pruning keys) entries
  | [] => rfl
  | (key, value) :: rest => by
      rw [Context.prunedEntries, Context.changedEntries, pruned_eq_changed value,
        pruned_entries_eq_changed rest]
end

/-- Pruning values is changing them. -/
theorem pruned_eq : Value.pruned keys = Value.changed (.pruning keys) :=
  funext pruned_eq_changed

@[simp] theorem pruned_list (items : List Value) :
    (Value.list items).pruned keys = .list (items.map (Value.pruned keys)) := by
  rw [pruned_eq, changed_list]

@[simp] theorem pruned_closure (closure : Closure) :
    (Value.closure closure).pruned keys = .closure (closure.pruned keys) := by
  rw [Value.pruned]

/-! ## Look-ups -/

/-- A context is looked up before or after pruning. -/
theorem get?_pruned (context : Context) (key : String) :
    (context.pruned keys).get? key = (context.get? key).map (Value.pruned keys) := by
  rw [context_pruned_eq_changed, pruned_eq, get?_changed]

/-- What is under one of the keys is kept. -/
theorem get?_restricted (context : Context) {key : String} (hkey : key ∈ keys) :
    Keyed.get? key (context.restricted keys).entries = context.get? key := by
  have hkept : ∀ kept : List String,
      Keyed.get? key (kept.filterMap fun key => (context.get? key).map fun value => (key, value)) =
        if key ∈ kept then context.get? key else none := by
    intro kept
    induction kept with
    | nil => rfl
    | cons other kept ih =>
        cases hother : context.get? other with
        | none =>
            rw [List.filterMap_cons_none (by rw [hother]; rfl), ih]
            by_cases heq : key = other
            · rw [heq, hother]
              simp
            · simp [heq]
        | some value =>
            rw [List.filterMap_cons_some (by rw [hother]; rfl), Keyed.get?, ih]
            by_cases heq : key = other
            · simp [heq, hother]
            · simp [heq]
  rw [Context.restricted, hkept, if_pos hkey]

/-- The parts of two contexts are equal if the look-ups of the keys are. -/
theorem restricted_eq_iff {first second : Context} :
    first.restricted keys = second.restricted keys ↔
      ∀ key ∈ keys, first.get? key = second.get? key := by
  constructor
  · intro h key hkey
    rw [← get?_restricted first hkey, ← get?_restricted second hkey, h]
  · intro h
    rw [Context.restricted, Context.restricted,
      List.filterMap_congr fun key hkey => by rw [h key hkey]]

/-! ## Operations on pruned values -/

/-- A pruned value has the same text within another one. -/
theorem repr_pruned (value : Value) : (value.pruned keys).repr = value.repr := by
  rw [pruned_eq, repr_changed]

/-- Pruned values have the same joined text. -/
theorem joined_text_pruned (values : List Value) :
    Value.joinedText (values.map (Value.pruned keys)) = Value.joinedText values := by
  rw [pruned_eq, joined_text_changed]

/-- A pruned value is of the same type. -/
theorem type_name_pruned (value : Value) : (value.pruned keys).typeName = value.typeName := by
  rw [pruned_eq, type_name_changed]

/-- What is found is pruned, or null. -/
theorem pruned_get_d (found : Option Value) :
    (found.getD .null).pruned keys = (found.map (Value.pruned keys)).getD .null := by
  rw [pruned_eq, changed_get_d]

/-- A property is looked up before or after pruning. -/
theorem lookup_pruned (subject : Value) (key : String) :
    (subject.pruned keys).lookup key = (subject.lookup key).pruned keys := by
  rw [pruned_eq, lookup_changed]

/-- An element is selected before or after pruning. -/
theorem access_pruned (subject index : Value) :
    (subject.pruned keys).access (index.pruned keys) = (subject.access index).pruned keys := by
  rw [pruned_eq, access_changed]

/-- What a map stands for is found before or after pruning. -/
theorem unwrapped_pruned (value : Value) :
    (value.pruned keys).unwrapped = value.unwrapped.pruned keys := by
  rw [pruned_eq, unwrapped_changed]

/-- The property of a variable is found before or after pruning. -/
theorem variable_property_pruned (context : Context) (name key : String) :
    (Scope.variableProperty context name key).pruned keys =
      Scope.variableProperty (context.pruned keys) name key := by
  rw [pruned_eq, context_pruned_eq_changed, variable_property_changed]

/-- The argument of a lambda is found before or after pruning. -/
theorem capture_pruned (context : Context) (index : UInt64) :
    (context.capture index).pruned keys = (context.pruned keys).capture index := by
  rw [pruned_eq, context_pruned_eq_changed, capture_changed]

/-- The elements that can be walked through are found before or after pruning. -/
theorem elements_of?_pruned (collection : Value) :
    StandardFunction.elementsOf? (collection.pruned keys) =
      (StandardFunction.elementsOf? collection).map (List.map (Value.pruned keys)) := by
  rw [pruned_eq, elements_of?_changed]

/-- Pruned operands have the same value. -/
theorem apply_pruned (op : BinaryOp) (x y : Value) :
    op.apply (x.pruned keys) (y.pruned keys) = op.apply x y := by
  rw [pruned_eq, apply_changed]

/-- A function other than `map` has the same answer for pruned arguments, pruned. -/
theorem answer_pruned {function : StandardFunction} (hmap : function ≠ .map) {invoke later : Invoke}
    {first second : Call} (hname : first.name = second.name)
    (hargs : first.args = second.args.map (Value.pruned keys)) :
    function.answer invoke first = (function.answer later second).map (Value.pruned keys) := by
  rw [pruned_eq] at hargs ⊢
  exact answer_changed hmap hname hargs

end TextTemplate
