import TextTemplate.Eval.Evaluator
import TextTemplate.Proofs.Context.Keys
import TextTemplate.Proofs.Eval.Closures
import TextTemplate.Proofs.Value.Access

/-!
# Changed closures

`Value.changed change` changes all closures within a value, wherever they are kept, so that closures
of different origins keep different origins. What a value shows, how it compares and what can be
selected from it does not depend on what closures consist of: the operations of the evaluator
commute with changes.
-/

namespace TextTemplate

/-- A change of closures, which leaves them their origins unless it renames these. -/
structure Closure.Change where
  apply : Closure → Closure
  rename : Origin → Origin := id
  rename_injective : Function.Injective rename := by exact Function.injective_id
  origin_apply : ∀ closure, (apply closure).origin = rename closure.origin

mutual
/-- The value with all closures within it changed. -/
def Value.changed (change : Closure.Change) : Value → Value
  | .list items => .list (Value.changedItems change items)
  | .map context => .map (Context.changed change context)
  | .closure closure => .closure (Closure.changed change closure)
  | value => value

/-- The context with all closures within it changed. -/
def Context.changed (change : Closure.Change) : Context → Context
  | ⟨entries⟩ => ⟨Context.changedEntries change entries⟩

/-- The closure, changed after the closures within its context. -/
def Closure.changed (change : Closure.Change) : Closure → Closure
  | ⟨context, body, resolver, maxDepth, origin⟩ =>
    change.apply ⟨Context.changed change context, body, resolver, maxDepth, origin⟩

/-- The items with all closures within them changed. -/
def Value.changedItems (change : Closure.Change) : List Value → List Value
  | [] => []
  | item :: items => Value.changed change item :: Value.changedItems change items

/-- The entries with all closures within them changed. -/
def Context.changedEntries (change : Closure.Change) :
    List (String × Value) → List (String × Value)
  | [] => []
  | (key, value) :: rest =>
    (key, Value.changed change value) :: Context.changedEntries change rest
end

variable {change : Closure.Change}

/-- Items are changed one by one. -/
theorem changed_items_eq (items : List Value) :
    Value.changedItems change items = items.map (Value.changed change) := by
  induction items with
  | nil => rfl
  | cons item items ih => rw [Value.changedItems, ih, List.map_cons]

@[simp] theorem changed_list (items : List Value) :
    (Value.list items).changed change = .list (items.map (Value.changed change)) := by
  rw [Value.changed, changed_items_eq]

@[simp] theorem changed_map (context : Context) :
    (Value.map context).changed change = .map (context.changed change) := by
  rw [Value.changed]

@[simp] theorem changed_closure (closure : Closure) :
    (Value.closure closure).changed change = .closure (closure.changed change) := by
  rw [Value.changed]

/-- The origin of a closure is renamed. -/
theorem origin_changed (closure : Closure) :
    (closure.changed change).origin = change.rename closure.origin := by
  cases closure
  rw [Closure.changed, change.origin_apply]

/-- Renamed origins are the same if the origins are. -/
theorem rename_beq (first second : Origin) :
    (change.rename first == change.rename second) = (first == second) := by
  rw [Bool.eq_iff_iff, beq_iff_eq, beq_iff_eq, change.rename_injective.eq_iff]

/-! ## Look-ups -/

/-- Entries are looked up before or after the change. -/
theorem get?_changed_entries (key : String) (entries : List (String × Value)) :
    Keyed.get? key (Context.changedEntries change entries) =
      (Keyed.get? key entries).map (Value.changed change) := by
  induction entries with
  | nil => rfl
  | cons entry rest ih =>
      obtain ⟨other, value⟩ := entry
      rw [Context.changedEntries, Keyed.get?, Keyed.get?]
      split
      · rfl
      · exact ih

/-- A context is looked up before or after the change. -/
theorem get?_changed (context : Context) (key : String) :
    (context.changed change).get? key = (context.get? key).map (Value.changed change) := by
  obtain ⟨entries⟩ := context
  rw [Context.changed, Context.get?, Context.get?, get?_changed_entries, get?_changed_entries]
  cases Keyed.get? key entries <;> rfl

/-- Entries are inserted before or after the change. -/
theorem changed_entries_insert (key : String) (value : Value) (entries : List (String × Value)) :
    Context.changedEntries change (Keyed.insert key value entries) =
      Keyed.insert key (value.changed change) (Context.changedEntries change entries) := by
  induction entries with
  | nil => rfl
  | cons entry rest ih =>
      obtain ⟨other, kept⟩ := entry
      rw [Context.changedEntries, Keyed.insert, Keyed.insert]
      split
      · rfl
      · split
        · rfl
        · rw [Context.changedEntries, ih]

/-- A context is inserted into before or after the change. -/
theorem changed_insert (context : Context) (key : String) (value : Value) :
    (context.insert key value).changed change =
      (context.changed change).insert key (value.changed change) := by
  obtain ⟨entries⟩ := context
  rw [Context.insert, Context.changed, changed_entries_insert]
  rfl

/-- The captures are put into a context before or after the change. -/
theorem changed_with_captures (context : Context) (args : List Value) :
    (context.withCaptures args).changed change =
      (context.changed change).withCaptures (args.map (Value.changed change)) := by
  rw [Context.withCaptures, changed_insert, changed_list, Context.withCaptures]

/-! ## What is not changed -/

mutual
/-- A value is not changed if none of the closures within it is. -/
theorem changed_of_every : (value : Value) →
    value.Every (fun closure => change.apply closure = closure) → value.changed change = value
  | .list items, h => by rw [Value.changed, changed_items_of_every items h]
  | .map context, h => by rw [Value.changed, context_changed_of_every context h]
  | .closure ⟨context, _, _, _, _⟩, h => by
      rw [Value.changed, Closure.changed, context_changed_of_every context h.2, h.1]
  | .null, _ | .bool _, _ | .int _, _ | .float _, _ | .decimal _, _ | .str _, _ | .dateTime _, _
  | .range _, _ => rfl

/-- A context is not changed if none of the closures within it is. -/
theorem context_changed_of_every : (context : Context) →
    context.Every (fun closure => change.apply closure = closure) →
    context.changed change = context
  | ⟨entries⟩, h => by rw [Context.changed, changed_entries_of_every entries h]

/-- Items are not changed if none of the closures within them is. -/
theorem changed_items_of_every : (items : List Value) →
    Value.EveryItem (fun closure => change.apply closure = closure) items →
    Value.changedItems change items = items
  | [], _ => rfl
  | item :: items, h => by
      rw [Value.changedItems, changed_of_every item h.1, changed_items_of_every items h.2]

/-- Entries are not changed if none of the closures within them is. -/
theorem changed_entries_of_every : (entries : List (String × Value)) →
    Context.EveryEntry (fun closure => change.apply closure = closure) entries →
    Context.changedEntries change entries = entries
  | [], _ => rfl
  | (key, value) :: rest, h => by
      rw [Context.changedEntries, changed_of_every value h.1, changed_entries_of_every rest h.2]
end

/-- A value without closures is not changed. -/
theorem changed_of_closure_free (value : Value) (h : value.ClosureFree) :
    value.changed change = value :=
  changed_of_every value (h.mono fun _ hfalse => hfalse.elim)

/-- A context without closures is not changed. -/
theorem context_changed_of_closure_free (context : Context) (h : context.ClosureFree) :
    context.changed change = context :=
  context_changed_of_every context (h.mono fun _ hfalse => hfalse.elim)

/-! ## What a value shows -/

mutual
/-- A changed value has the same text. -/
theorem text_changed : (value : Value) → (value.changed change).text = value.text
  | .list items => by
      rw [Value.changed, Value.text, Value.text, items_text_changed]
  | .map context => by
      rw [Value.changed, Value.text, Value.text, context_text_changed]
  | .closure closure => by
      rw [Value.changed, Value.text, Value.text]
  | .null | .bool _ | .int _ | .float _ | .decimal _ | .str _ | .dateTime _ | .range _ => by
      rw [Value.changed] <;> nofun

/-- A changed context has the same text. -/
theorem context_text_changed : (context : Context) →
    Value.contextText (context.changed change) = Value.contextText context
  | ⟨entries⟩ => by
      rw [Context.changed, Value.contextText, Value.contextText, default_text_changed,
        entries_text_changed]

/-- A changed map stands for a value with the same text. -/
theorem default_text_changed : (entries : List (String × Value)) →
    Value.defaultText (Context.changedEntries change entries) = Value.defaultText entries
  | [] => rfl
  | (key, value) :: rest => by
      rw [Context.changedEntries, Value.defaultText, Value.defaultText, text_changed value,
        default_text_changed rest]

/-- A changed value has the same text within another one. -/
theorem repr_changed : (value : Value) → (value.changed change).repr = value.repr
  | .list items => by
      rw [Value.changed, Value.repr, Value.repr, items_text_changed]
  | .map context => by
      rw [Value.changed, Value.repr, Value.repr, context_text_changed]
  | .closure closure => by
      rw [Value.changed, Value.repr, Value.repr]
  | .null | .bool _ | .int _ | .float _ | .decimal _ | .str _ | .dateTime _ | .range _ => by
      rw [Value.changed] <;> nofun

/-- Changed items have the same texts. -/
theorem items_text_changed : (items : List Value) → {preceded : Bool} →
    Value.itemsText preceded (Value.changedItems change items) = Value.itemsText preceded items
  | [], _ => rfl
  | item :: items, _ => by
      rw [Value.changedItems, Value.itemsText, Value.itemsText, repr_changed item,
        items_text_changed items]

/-- Changed entries have the same texts. -/
theorem entries_text_changed : (entries : List (String × Value)) → {preceded : Bool} →
    Value.entriesText preceded (Context.changedEntries change entries) =
      Value.entriesText preceded entries
  | [], _ => rfl
  | (key, value) :: rest, _ => by
      rw [Context.changedEntries, Value.entriesText, Value.entriesText, repr_changed value,
        entries_text_changed rest]
end

/-! ## What kind a value is of -/

@[simp] theorem type_name_changed (value : Value) :
    (value.changed change).typeName = value.typeName := by
  cases value <;> rfl

@[simp] theorem is_null_changed (value : Value) : (value.changed change).isNull = value.isNull := by
  cases value <;> rfl

@[simp] theorem is_truthy_changed (value : Value) :
    (value.changed change).isTruthy = value.isTruthy := by
  cases value <;> rfl

@[simp] theorem is_numeric_changed (value : Value) :
    (value.changed change).isNumeric = value.isNumeric := by
  cases value <;> rfl

@[simp] theorem float?_changed (value : Value) : (value.changed change).float? = value.float? := by
  cases value <;> rfl

/-! ## What is selected from a value -/

/-- What is found is changed, or null. -/
theorem changed_get_d (found : Option Value) :
    (found.getD .null).changed change = (found.map (Value.changed change)).getD .null := by
  cases found <;> rfl

/-- A property is looked up before or after the change. -/
theorem lookup_changed (subject : Value) (key : String) :
    (subject.changed change).lookup key = (subject.lookup key).changed change := by
  cases subject with
  | map context => rw [changed_map, Value.lookup, Value.lookup, get?_changed, changed_get_d]
  | _ => rfl

/-- An element is selected before or after the change. -/
theorem access_changed (subject index : Value) :
    (subject.changed change).access (index.changed change) =
      (subject.access index).changed change := by
  cases subject with
  | list items =>
      rw [changed_list]
      cases index with
      | int index =>
          rw [Value.access, changed_get_d, ← element_at?_map]
          rfl
      | range selected =>
          rw [Value.access, changed_list, ← slice_map]
          rfl
      | _ => rfl
  | map context =>
      rw [changed_map]
      cases index with
      | str key =>
          rw [Value.access, changed_get_d, ← get?_changed]
          rfl
      | int key =>
          rw [Value.access, changed_get_d, ← get?_changed]
          rfl
      | _ => rfl
  | range members =>
      cases index with
      | int index =>
          simp only [Value.changed, Value.access]
          split <;> rfl
      | _ => rfl
  | _ => cases index <;> rfl

/-- What a map stands for is found before or after the change. -/
theorem unwrapped_changed (value : Value) :
    (value.changed change).unwrapped = value.unwrapped.changed change := by
  cases value with
  | map context =>
      rw [changed_map, Value.unwrapped, Value.unwrapped, get?_changed]
      cases context.get? Context.defaultKey with
      | none => exact (changed_map context).symm
      | some value => rfl
  | _ => rfl

/-- The property of a variable is found before or after the change. -/
theorem variable_property_changed (context : Context) (name key : String) :
    (Scope.variableProperty context name key).changed change =
      Scope.variableProperty (context.changed change) name key := by
  rw [Scope.variableProperty, Scope.variableProperty, get?_changed]
  cases context.get? name with
  | none => rfl
  | some value =>
      cases value with
      | map inner =>
          simp only [Option.map_some, changed_map, get?_changed]
          cases inner.get? key with
          | none => rfl
          | some value =>
              simp only [Option.map_some, is_null_changed]
              split <;> rfl
      | _ => rfl

/-- The argument of a lambda is found before or after the change. -/
theorem capture_changed (context : Context) (index : UInt64) :
    (context.capture index).changed change = (context.changed change).capture index := by
  rw [Context.capture, Context.capture, get?_changed]
  cases context.get? Context.capturesKey with
  | none => rfl
  | some value =>
      cases value with
      | list args =>
          rw [Option.map_some, changed_list]
          cases index.toNat with
          | zero => rfl
          | succ position =>
              dsimp only
              rw [List.getD_eq_getElem?_getD, List.getD_eq_getElem?_getD, List.getElem?_map,
                changed_get_d]
      | _ => rfl

/-- A changed value is the same bound of a range. -/
theorem bound_of_changed (value : Value) :
    Scope.boundOf (value.changed change) = Scope.boundOf value := by
  cases value with
  | list | map | closure =>
      exact congrArg (Except.error <| Halt.fault <| .invalidRangeBound ·) (repr_changed _)
  | _ => rfl

/-- The elements that can be walked through are found before or after the change. -/
theorem elements_of?_changed (collection : Value) :
    StandardFunction.elementsOf? (collection.changed change) =
      (StandardFunction.elementsOf? collection).map (List.map (Value.changed change)) := by
  cases collection with
  | list items =>
      rw [changed_list]
      rfl
  | range range =>
      simp [Value.changed, StandardFunction.elementsOf?, Function.comp_def]
  | _ => rfl

/-! ## Comparisons and operators -/

/-- There is nothing to change in a number. -/
theorem changed_of_is_numeric {value : Value} (h : value.isNumeric) :
    value.changed change = value := by
  cases value with
  | int | float | decimal => rfl
  | _ => cases h

mutual
/-- Changed values are equal if the values are. -/
theorem same_changed : (x y : Value) → (x.changed change).same (y.changed change) = x.same y
  | .list xs, y => by
      cases y with
      | list ys => rw [Value.changed, Value.changed, Value.same, Value.same, same_all_changed]
      | _ => simp only [Value.changed, Value.same]
  | .map x, y => by
      cases y with
      | map y => rw [Value.changed, Value.changed, Value.same, Value.same, same_context_changed]
      | _ => simp only [Value.changed, Value.same]
  | .closure x, y => by
      cases y <;> simp only [Value.changed, Value.same, origin_changed, rename_beq]
  | .null, y | .bool _, y | .int _, y | .float _, y | .decimal _, y | .str _, y | .dateTime _, y
  | .range _, y => by
      cases y <;> simp only [Value.changed, Value.same]

/-- Changed contexts are equal if the contexts are. -/
theorem same_context_changed : (x y : Context) →
    Value.sameContext (x.changed change) (y.changed change) = Value.sameContext x y
  | ⟨xs⟩, ⟨ys⟩ => by
      rw [Context.changed, Context.changed, Value.sameContext, Value.sameContext,
        same_entries_changed]

/-- Changed items are equal if the items are. -/
theorem same_all_changed : (xs ys : List Value) →
    Value.sameAll (Value.changedItems change xs) (Value.changedItems change ys) =
      Value.sameAll xs ys
  | [], [] => rfl
  | [], _ :: _ | _ :: _, [] => by simp only [Value.changedItems, Value.sameAll]
  | x :: xs, y :: ys => by
      rw [Value.changedItems, Value.changedItems, Value.sameAll, Value.sameAll, same_changed x y,
        same_all_changed xs ys]

/-- Changed entries are equal if the entries are. -/
theorem same_entries_changed : (xs ys : List (String × Value)) →
    Value.sameEntries (Context.changedEntries change xs) (Context.changedEntries change ys) =
      Value.sameEntries xs ys
  | [], [] => rfl
  | [], _ :: _ | _ :: _, [] => by simp only [Context.changedEntries, Value.sameEntries]
  | (k, x) :: xs, (l, y) :: ys => by
      rw [Context.changedEntries, Context.changedEntries, Value.sameEntries, Value.sameEntries,
        same_changed x y, same_entries_changed xs ys]
end

/-- A context has as many entries when it is changed. -/
theorem size_changed (context : Context) : (context.changed change).size = context.size := by
  obtain ⟨entries⟩ := context
  rw [Context.changed, Context.size, Context.size]
  induction entries with
  | nil => rfl
  | cons entry entries ih => exact congrArg (· + 1) ih

mutual
/-- Changed values compare as the values do. -/
theorem loose_eq_changed : (x y : Value) →
    (x.changed change).looseEq (y.changed change) = x.looseEq y
  | .list xs, y => by
      cases y with
      | list ys =>
          rw [Value.changed, Value.changed, Value.looseEq, Value.looseEq, loose_eq_all_changed]
      | _ => simp [Value.changed, Value.looseEq, Value.isNumeric, Value.same]
  | .map x, y => by
      cases y with
      | map y =>
          rw [Value.changed, Value.changed, Value.looseEq, Value.looseEq, loose_eq_context_changed]
      | _ => simp [Value.changed, Value.looseEq, Value.isNumeric, Value.same]
  | .closure x, y => by
      cases y <;> simp [Value.changed, Value.looseEq, Value.isNumeric, Value.same, origin_changed,
        rename_beq]
  | .null, y | .bool _, y | .int _, y | .float _, y | .decimal _, y | .str _, y | .dateTime _, y
  | .range _, y => by
      cases y <;> simp [Value.changed, Value.looseEq, Value.isNumeric, Value.same]

/-- Changed contexts compare as the contexts do. -/
theorem loose_eq_context_changed : (x y : Context) →
    Value.looseEqContext (x.changed change) (y.changed change) = Value.looseEqContext x y
  | ⟨xs⟩, y => by
      have hlength : (Context.changedEntries change xs).length = xs.length := size_changed ⟨xs⟩
      rw [Context.changed, Value.looseEqContext, Value.looseEqContext, size_changed, hlength,
        loose_eq_entries_changed]

/-- Changed items compare as the items do. -/
theorem loose_eq_all_changed : (xs ys : List Value) →
    Value.looseEqAll (Value.changedItems change xs) (Value.changedItems change ys) =
      Value.looseEqAll xs ys
  | [], [] => rfl
  | [], _ :: _ | _ :: _, [] => by simp only [Value.changedItems, Value.looseEqAll]
  | x :: xs, y :: ys => by
      rw [Value.changedItems, Value.changedItems, Value.looseEqAll, Value.looseEqAll,
        loose_eq_changed x y, loose_eq_all_changed xs ys]

/-- Changed entries are found in a changed context as the entries are in the context. -/
theorem loose_eq_entries_changed : (xs : List (String × Value)) → (context : Context) →
    Value.looseEqEntries (Context.changedEntries change xs) (context.changed change) =
      Value.looseEqEntries xs context
  | [], _ => by simp only [Context.changedEntries, Value.looseEqEntries]
  | (key, x) :: rest, context => by
      rw [Context.changedEntries, Value.looseEqEntries, Value.looseEqEntries,
        loose_eq_entries_changed rest context, get?_changed]
      cases context.get? key with
      | none => rfl
      | some y => simp only [Option.map_some, loose_eq_changed x y]
end

/-- Changed operands have the same sum, difference, product, quotient or order. -/
theorem numeric_changed (op : BinaryOp) (x y : Value) :
    op.numeric (x.changed change) (y.changed change) = op.numeric x y := by
  rw [BinaryOp.numeric.eq_def, BinaryOp.numeric.eq_def, is_numeric_changed, is_numeric_changed,
    repr_changed, repr_changed]
  split
  · rfl
  · next hx =>
      split
      · rfl
      · next hy =>
          rw [changed_of_is_numeric (by simpa using hx), changed_of_is_numeric (by simpa using hy)]

/-- Changed operands have the same value. -/
theorem apply_changed (op : BinaryOp) (x y : Value) :
    op.apply (x.changed change) (y.changed change) = op.apply x y := by
  cases op with
  | eq | ne => rw [BinaryOp.apply, BinaryOp.apply, loose_eq_changed]
  | concat => rw [BinaryOp.apply, BinaryOp.apply, text_changed, text_changed]
  | pow =>
      rw [BinaryOp.apply, BinaryOp.apply, BinaryOp.power, BinaryOp.power, float?_changed,
        float?_changed, repr_changed, repr_changed]
  | _ => simp only [BinaryOp.apply, numeric_changed]

/-! ## Functions -/

/-- A changed value has as many elements. -/
theorem length_of?_changed (value : Value) :
    StandardFunction.lengthOf? (value.changed change) = StandardFunction.lengthOf? value := by
  cases value with
  | list items => rw [changed_list, StandardFunction.lengthOf?, StandardFunction.lengthOf?,
      List.length_map]
  | map context => rw [changed_map, StandardFunction.lengthOf?, StandardFunction.lengthOf?,
      size_changed]
  | _ => rfl

/-- Changed values have the same joined text. -/
theorem joined_text_changed (values : List Value) :
    Value.joinedText (values.map (Value.changed change)) = Value.joinedText values := by
  rw [Value.joinedText, Value.joinedText, List.map_map]
  exact congrArg String.join (List.map_congr_left fun value _ => text_changed value)

/-- The text of an argument, or what is wrong with it, is the same for the changed argument. -/
theorem text_arg_changed (first second : Call) (hname : first.name = second.name) (value : Value) :
    StandardFunction.textArg first (value.changed change) =
      StandardFunction.textArg second value := by
  cases value with
  | list | map | closure =>
      simp [StandardFunction.textArg, Call.argumentError, Value.typeName, hname]
  | _ => simp [StandardFunction.textArg, Call.argumentError, Value.typeName, Value.changed, hname]

/-- A function other than `map` only looks at its name and its arguments, and for changed arguments
it has the same answer, changed. -/
theorem answer_changed {function : StandardFunction} (hmap : function ≠ .map)
    {invoke later : Invoke} {first second : Call} (hname : first.name = second.name)
    (hargs : first.args = second.args.map (Value.changed change)) :
    function.answer invoke first = (function.answer later second).map (Value.changed change) := by
  obtain ⟨name, args, context, origin⟩ := first
  obtain ⟨_, args, other, elsewhere⟩ := second
  cases hname
  cases hargs
  cases function with
  | map => exact absurd rfl hmap
  | choose =>
      rcases args with _ | ⟨condition, _ | ⟨yes, _ | ⟨no, _ | _⟩⟩⟩
      case cons.cons.cons.nil =>
        simp only [StandardFunction.answer, List.map_cons, List.map_nil, is_truthy_changed]
        exact congrArg Except.ok (apply_ite _ _ _ _).symm
      all_goals simp [StandardFunction.answer, Call.arityError, Except.map]
  | all | any =>
      simp only [StandardFunction.answer, List.isEmpty_map, List.all_map, List.any_map,
        Function.comp_def, is_truthy_changed]
      split
      · simp [Call.arityError, Except.map]
      · rfl
  | negate =>
      rcases args with _ | ⟨value, _ | _⟩
      case cons.nil =>
        simp only [StandardFunction.answer, List.map_cons, List.map_nil, is_truthy_changed]
        rfl
      all_goals simp [StandardFunction.answer, Call.arityError, Except.map]
  | upper | lower =>
      rcases args with _ | ⟨value, _ | _⟩
      case cons.nil =>
        simp only [StandardFunction.answer, List.map_cons, List.map_nil]
        rw [text_arg_changed ⟨name, [value.changed change], context, origin⟩
          ⟨name, [value], other, elsewhere⟩ rfl value]
        cases StandardFunction.textArg ⟨name, [value], other, elsewhere⟩ value <;> rfl
      all_goals simp [StandardFunction.answer, Call.arityError, Except.map]
  | len =>
      rcases args with _ | ⟨value, _ | _⟩
      case cons.nil =>
        simp only [StandardFunction.answer, List.map_cons, List.map_nil, length_of?_changed,
          type_name_changed]
        cases StandardFunction.lengthOf? value <;> rfl
      all_goals simp [StandardFunction.answer, Call.arityError, Except.map]
  | concatenate =>
      simp only [StandardFunction.answer, joined_text_changed]
      rfl

end TextTemplate
