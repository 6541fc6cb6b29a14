import TextTemplate.Eval.Evaluator
import TextTemplate.Proofs.Context.Keys

/-!
# Closures within values

`Value.Every P` says that every closure within a value satisfies `P`, wherever it is kept: in lists,
in maps, and in the contexts of other closures. The operations of the evaluator only pass closures
on, so that what they return has no closures but those of their operands. `Expr.lambdas` lists the
lambdas that an evaluation of a tree may turn into closures.
-/

namespace TextTemplate

mutual
/-- Every closure within the value satisfies `P`. -/
def Value.Every (P : Closure → Prop) : Value → Prop
  | .list items => Value.EveryItem P items
  | .map context => Context.Every P context
  | .closure closure => Closure.Every P closure
  | _ => True

/-- Every closure within the context satisfies `P`. -/
def Context.Every (P : Closure → Prop) : Context → Prop
  | ⟨entries⟩ => Context.EveryEntry P entries

/-- The closure satisfies `P`, and so does every closure within its context. -/
def Closure.Every (P : Closure → Prop) : Closure → Prop
  | ⟨context, body, resolver, maxDepth, origin⟩ =>
    P ⟨context, body, resolver, maxDepth, origin⟩ ∧ Context.Every P context

/-- Every closure within the values satisfies `P`. -/
def Value.EveryItem (P : Closure → Prop) : List Value → Prop
  | [] => True
  | item :: items => Value.Every P item ∧ Value.EveryItem P items

/-- Every closure within the entries satisfies `P`. -/
def Context.EveryEntry (P : Closure → Prop) : List (String × Value) → Prop
  | [] => True
  | (_, value) :: rest => Value.Every P value ∧ Context.EveryEntry P rest
end

/-- The value has no closure within it. -/
def Value.ClosureFree (value : Value) : Prop :=
  value.Every fun _ => False

/-- The context has no closure within it. -/
def Context.ClosureFree (context : Context) : Prop :=
  context.Every fun _ => False

variable {P Q : Closure → Prop}

/-- `EveryItem` is membership in the list. -/
theorem every_item_iff {items : List Value} :
    Value.EveryItem P items ↔ ∀ item ∈ items, item.Every P := by
  induction items with
  | nil => simp [Value.EveryItem]
  | cons item items ih => simp [Value.EveryItem, ih]

/-- `EveryEntry` is membership in the entries. -/
theorem every_entry_iff {entries : List (String × Value)} :
    Context.EveryEntry P entries ↔ ∀ entry ∈ entries, entry.2.Every P := by
  induction entries with
  | nil => simp [Context.EveryEntry]
  | cons entry entries ih => simp [Context.EveryEntry, ih]

@[simp] theorem every_list {items : List Value} :
    (Value.list items).Every P ↔ ∀ item ∈ items, item.Every P := by
  rw [Value.Every, every_item_iff]

@[simp] theorem every_map {context : Context} :
    (Value.map context).Every P ↔ context.Every P := by
  rw [Value.Every]

@[simp] theorem every_closure {closure : Closure} :
    (Value.closure closure).Every P ↔ closure.Every P := by
  rw [Value.Every]

/-- A closure and the closures of its context are apart. -/
theorem closure_every_iff {closure : Closure} :
    closure.Every P ↔ P closure ∧ closure.context.Every P := by
  cases closure
  rw [Closure.Every]

/-- A context holds what its entries hold. -/
theorem context_every_iff {context : Context} :
    context.Every P ↔ ∀ entry ∈ context.entries, entry.2.Every P := by
  cases context
  rw [Context.Every, every_entry_iff]

mutual
/-- A weaker property holds of the closures within a value as well. -/
theorem Value.Every.mono (h : ∀ closure, P closure → Q closure) {value : Value}
    (hvalue : value.Every P) : value.Every Q := by
  cases value with
  | list items =>
      rw [Value.Every] at hvalue ⊢
      exact every_item_mono h hvalue
  | map context =>
      rw [Value.Every] at hvalue ⊢
      exact Context.Every.mono h hvalue
  | closure closure =>
      cases closure
      rw [Value.Every, Closure.Every] at hvalue ⊢
      exact ⟨h _ hvalue.1, Context.Every.mono h hvalue.2⟩
  | _ => trivial

/-- A weaker property holds of the closures within a context as well. -/
theorem Context.Every.mono (h : ∀ closure, P closure → Q closure) {context : Context}
    (hcontext : context.Every P) : context.Every Q := by
  cases context with
  | mk entries =>
      rw [Context.Every] at hcontext ⊢
      exact every_entry_mono h hcontext

/-- A weaker property holds of the closures within values as well. -/
theorem every_item_mono (h : ∀ closure, P closure → Q closure) {items : List Value}
    (hitems : Value.EveryItem P items) : Value.EveryItem Q items := by
  cases items with
  | nil => trivial
  | cons item items =>
      rw [Value.EveryItem] at hitems ⊢
      exact ⟨Value.Every.mono h hitems.1, every_item_mono h hitems.2⟩

/-- A weaker property holds of the closures within entries as well. -/
theorem every_entry_mono (h : ∀ closure, P closure → Q closure)
    {entries : List (String × Value)} (hentries : Context.EveryEntry P entries) :
    Context.EveryEntry Q entries := by
  cases entries with
  | nil => trivial
  | cons entry entries =>
      cases entry
      rw [Context.EveryEntry] at hentries ⊢
      exact ⟨Value.Every.mono h hentries.1, every_entry_mono h hentries.2⟩
end

/-- Without closures, every property holds of them. -/
theorem Context.ClosureFree.every {context : Context} (h : context.ClosureFree) :
    context.Every P :=
  Context.Every.mono (fun _ hfalse => hfalse.elim) h

/-! ## What the evaluator does with values -/

/-- What a context has under a key is within the context. -/
theorem Context.Every.get? {context : Context} {key : String} {value : Value}
    (h : context.Every P) (hget : context.get? key = some value) : value.Every P := by
  rw [context_every_iff] at h
  obtain ⟨entry, hentry, rfl⟩ := Context.exists_entry_of_get? hget
  exact h entry hentry

/-- What a context has under a key, or null, is harmless. -/
theorem Context.Every.get?_getD {context : Context} (h : context.Every P) (key : String) :
    ((context.get? key).getD .null).Every P := by
  cases hget : context.get? key with
  | none => trivial
  | some value => exact h.get? hget

/-- An insertion adds the closures of the inserted value only. -/
theorem Context.Every.insert {context : Context} {value : Value} (h : context.Every P)
    (hvalue : value.Every P) (key : String) : (context.insert key value).Every P := by
  rw [context_every_iff] at h ⊢
  intro entry hentry
  rcases Keyed.mem_insert hentry with rfl | hmem
  · exact hvalue
  · exact h entry hmem

/-- The captures add the closures of the arguments only. -/
theorem Context.Every.with_captures {context : Context} {args : List Value}
    (h : context.Every P) (hargs : ∀ arg ∈ args, arg.Every P) :
    (context.withCaptures args).Every P :=
  h.insert (every_list.mpr hargs) _

/-- Captures replace those that a context has already. -/
@[simp] theorem with_captures_with_captures (context : Context) (first second : List Value) :
    (context.withCaptures first).withCaptures second = context.withCaptures second := by
  simp [Context.withCaptures, Context.insert, Keyed.insert_insert_self]

/-- An argument of the lambda that is called is within the context. -/
theorem Context.Every.capture {context : Context} (h : context.Every P) (index : UInt64) :
    (context.capture index).Every P := by
  rw [Context.capture]
  split
  · next args position hget _ =>
      have hargs := every_list.mp (h.get? hget)
      rw [List.getD_eq_getElem?_getD]
      cases hitem : args[position]? with
      | none => trivial
      | some item => exact hargs item (List.mem_of_getElem? hitem)
  · trivial

/-- A property of a variable is within the context, or it is a placeholder. -/
theorem Context.Every.variable_property {context : Context} (h : context.Every P)
    (name key : String) : (Scope.variableProperty context name key).Every P := by
  rw [Scope.variableProperty]
  split
  · next inner hinner =>
      split
      · next value hvalue =>
          split
          · trivial
          · exact (every_map.mp (h.get? hinner)).get? hvalue
      · trivial
  · trivial

/-- A property of a value is within the value. -/
theorem Value.Every.lookup {subject : Value} (h : subject.Every P) (key : String) :
    (subject.lookup key).Every P := by
  cases subject with
  | map context => exact (every_map.mp h).get?_getD key
  | _ => trivial

/-- An element of a list is within the list. -/
theorem element_at_every {items : List Value} (h : ∀ item ∈ items, item.Every P)
    (index : Int64) : ((elementAt? items index).getD .null).Every P := by
  cases helement : elementAt? items index with
  | none => trivial
  | some item =>
      rw [elementAt?] at helement
      split at helement
      · exact h item (List.mem_of_getElem? helement)
      · cases helement

/-- The elements of a slice are elements of the list. -/
theorem slice_every {items : List Value} (h : ∀ item ∈ items, item.Every P)
    (range : IntRange) : ∀ item ∈ range.slice items, item.Every P := by
  intro item hitem
  obtain ⟨position, _, hposition⟩ := List.mem_filterMap.mp hitem
  exact h item (List.mem_of_getElem? hposition)

/-- What an index selects is within the subject. -/
theorem Value.Every.access {subject : Value} (h : subject.Every P) (index : Value) :
    (subject.access index).Every P := by
  rw [Value.access.eq_def]
  split
  · exact element_at_every (every_list.mp h) _
  · split <;> trivial
  · exact every_list.mpr (slice_every (every_list.mp h) _)
  · trivial
  · exact (every_map.mp h).get?_getD _
  · exact (every_map.mp h).get?_getD _
  · trivial

/-- The value that a map stands for is within the map. -/
theorem Value.Every.unwrapped {value : Value} (h : value.Every P) : value.unwrapped.Every P := by
  cases value with
  | map context =>
      rw [Value.unwrapped]
      cases hget : context.get? Context.defaultKey with
      | none => exact h
      | some inner => exact (every_map.mp h).get? hget
  | _ => exact h

/-- A literal is no closure. -/
theorem literal_every (literal : Literal) : literal.value.Every P := by
  cases literal <;> trivial

/-- The value of a sum, a difference or a product holds no closure. -/
theorem combine_every {op : BinaryOp} {left right value : Value}
    (h : op.combine left right = .ok value) : value.Every P := by
  rw [BinaryOp.combine.eq_def] at h
  split at h
  · cases h; trivial
  · cases h; trivial
  · cases h; trivial
  · split at h <;> cases h
    trivial

/-- The value of an operator that takes numbers holds no closure. -/
theorem numeric_every {op : BinaryOp} {left right value : Value}
    (h : op.numeric left right = .ok value) : value.Every P := by
  rw [BinaryOp.numeric.eq_def] at h
  split at h
  · cases h
  · split at h
    · cases h
    · cases op <;> first | exact combine_every h | (cases h; trivial)

/-- The value of an operator holds no closure. -/
theorem apply_every {op : BinaryOp} {left right value : Value}
    (h : op.apply left right = .ok value) : value.Every P := by
  cases op with
  | pow =>
      rw [BinaryOp.apply, BinaryOp.power] at h
      split at h <;> cases h
      trivial
  | eq | ne | concat =>
      cases h
      trivial
  | _ => exact numeric_every h

/-! ## The lambdas of a tree -/

mutual
/-- The bodies of the lambdas of a tree that lie in no other lambda. -/
def Expr.lambdas : Expr → List (List Expr)
  | .lambda body => [body]
  | .property subject _ => subject.lambdas
  | .access subject index => subject.lambdas ++ index.lambdas
  | .function _ args => lambdasOfAll args
  | .range start stop step => start.lambdas ++ (stop.lambdas ++ lambdasOfStep step)
  | .list items => lambdasOfAll items
  | .binary _ left right => left.lambdas ++ right.lambdas
  | _ => []

/-- The bodies of the outermost lambdas of trees. -/
def Expr.lambdasOfAll : List Expr → List (List Expr)
  | [] => []
  | expr :: exprs => expr.lambdas ++ lambdasOfAll exprs

/-- The bodies of the outermost lambdas of the step of a range. -/
def Expr.lambdasOfStep : Option Expr → List (List Expr)
  | none => []
  | some expr => expr.lambdas
end

mutual
/-- How many lambdas of the tree lie within each other. -/
def Expr.lambdaDepth : Expr → Nat
  | .lambda body => lambdaDepthOfAll body + 1
  | .property subject _ => subject.lambdaDepth
  | .access subject index => max subject.lambdaDepth index.lambdaDepth
  | .function _ args => lambdaDepthOfAll args
  | .range start stop step =>
    max start.lambdaDepth (max stop.lambdaDepth (lambdaDepthOfStep step))
  | .list items => lambdaDepthOfAll items
  | .binary _ left right => max left.lambdaDepth right.lambdaDepth
  | _ => 0

/-- How many lambdas of the trees lie within each other. -/
def Expr.lambdaDepthOfAll : List Expr → Nat
  | [] => 0
  | expr :: exprs => max expr.lambdaDepth (lambdaDepthOfAll exprs)

/-- How many lambdas of the step of a range lie within each other. -/
def Expr.lambdaDepthOfStep : Option Expr → Nat
  | none => 0
  | some expr => expr.lambdaDepth
end

mutual
/-- The body of a lambda of the tree has fewer lambdas within each other than the tree. -/
theorem lambda_depth_lt {body : List Expr} : (expr : Expr) → body ∈ expr.lambdas →
    Expr.lambdaDepthOfAll body < expr.lambdaDepth
  | .lambda inner, h => by
      rw [List.mem_singleton.mp h, Expr.lambdaDepth]
      exact Nat.lt_succ_self _
  | .property subject _, h => lambda_depth_lt subject h
  | .access subject index, h => by
      rw [Expr.lambdaDepth]
      rcases List.mem_append.mp h with h | h
      · exact lt_max_of_lt_left (lambda_depth_lt subject h)
      · exact lt_max_of_lt_right (lambda_depth_lt index h)
  | .function _ args, h => lambda_depth_lt_of_all args h
  | .range start stop step, h => by
      rw [Expr.lambdaDepth]
      rcases List.mem_append.mp h with h | h
      · exact lt_max_of_lt_left (lambda_depth_lt start h)
      · rcases List.mem_append.mp h with h | h
        · exact lt_max_of_lt_right (lt_max_of_lt_left (lambda_depth_lt stop h))
        · exact lt_max_of_lt_right (lt_max_of_lt_right (lambda_depth_lt_of_step step h))
  | .list items, h => lambda_depth_lt_of_all items h
  | .binary _ left right, h => by
      rw [Expr.lambdaDepth]
      rcases List.mem_append.mp h with h | h
      · exact lt_max_of_lt_left (lambda_depth_lt left h)
      · exact lt_max_of_lt_right (lambda_depth_lt right h)

/-- The body of a lambda of the trees has fewer lambdas within each other than the trees. -/
theorem lambda_depth_lt_of_all {body : List Expr} : (exprs : List Expr) →
    body ∈ Expr.lambdasOfAll exprs →
    Expr.lambdaDepthOfAll body < Expr.lambdaDepthOfAll exprs
  | [], h => absurd h List.not_mem_nil
  | expr :: exprs, h => by
      rw [Expr.lambdaDepthOfAll]
      rcases List.mem_append.mp h with h | h
      · exact lt_max_of_lt_left (lambda_depth_lt expr h)
      · exact lt_max_of_lt_right (lambda_depth_lt_of_all exprs h)

/-- The body of a lambda of the step has fewer lambdas within each other than the step. -/
theorem lambda_depth_lt_of_step {body : List Expr} : (step : Option Expr) →
    body ∈ Expr.lambdasOfStep step →
    Expr.lambdaDepthOfAll body < Expr.lambdaDepthOfStep step
  | none, h => absurd h List.not_mem_nil
  | some expr, h => lambda_depth_lt expr h
end

end TextTemplate
