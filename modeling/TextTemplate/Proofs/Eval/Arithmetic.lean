import Mathlib.Tactic.Ring
import TextTemplate.Eval.Evaluator
import TextTemplate.Proofs.Expr.Nodes

/-!
# Arithmetic in words

A tree of integers, sums, differences and products has an exact value, over the unbounded integers.
Its evaluation wraps around at every node, and yet the word that comes out is the exact value,
reduced once at the end (`Expr.value_modulo_word_size`): words are the integers modulo 2^64, and
reducing commutes with the three operators. So a tree may be rearranged by the laws of arithmetic,
wherever they apply in it and whatever overflows on the way.
-/

namespace TextTemplate

/-! ## Exact values -/

/-- The value of a sum, a difference or a product of unbounded integers. -/
def BinaryOp.onIntegers? : BinaryOp → Int → Int → Option Int
  | add, x, y => some (x + y)
  | sub, x, y => some (x - y)
  | mul, x, y => some (x * y)
  | _, _, _ => none

namespace Expr

/-- The value of a tree over the unbounded integers, if it is made of integers, variables that are
integers in the context, sums, differences and products. -/
def exactValue? (context : Context) : Expr → Option Int
  | .literal (.int value) => some value.toInt
  | .atom name =>
    match context.get? name with
    | some (.int value) => some value.toInt
    | _ => none
  | .binary op left right =>
    match exactValue? context left, exactValue? context right with
    | some x, some y => op.onIntegers? x y
    | _, _ => none
  | _ => none

/-- The two trees are the sides of a law of arithmetic. -/
inductive ArithmeticLaw : Expr → Expr → Prop where
  | add_comm (x y : Expr) : ArithmeticLaw (.binary .add x y) (.binary .add y x)
  | mul_comm (x y : Expr) : ArithmeticLaw (.binary .mul x y) (.binary .mul y x)
  | add_assoc (x y z : Expr) :
      ArithmeticLaw (.binary .add (.binary .add x y) z) (.binary .add x (.binary .add y z))
  | mul_assoc (x y z : Expr) :
      ArithmeticLaw (.binary .mul (.binary .mul x y) z) (.binary .mul x (.binary .mul y z))
  | add_sub_assoc (x y z : Expr) :
      ArithmeticLaw (.binary .sub (.binary .add x y) z) (.binary .add x (.binary .sub y z))
  | sub_sub (x y z : Expr) :
      ArithmeticLaw (.binary .sub (.binary .sub x y) z) (.binary .sub x (.binary .add y z))
  | sub_add (x y z : Expr) :
      ArithmeticLaw (.binary .add (.binary .sub x y) z) (.binary .sub x (.binary .sub y z))
  | mul_add (x y z : Expr) :
      ArithmeticLaw (.binary .mul x (.binary .add y z))
        (.binary .add (.binary .mul x y) (.binary .mul x z))
  | mul_sub (x y z : Expr) :
      ArithmeticLaw (.binary .mul x (.binary .sub y z))
        (.binary .sub (.binary .mul x y) (.binary .mul x z))

/-- One tree becomes the other by laws of arithmetic, used in both directions and anywhere in it. -/
inductive Rearranged : Expr → Expr → Prop where
  | law {expr other : Expr} (h : ArithmeticLaw expr other) : Rearranged expr other
  | refl (expr : Expr) : Rearranged expr expr
  | symm {expr other : Expr} (h : Rearranged expr other) : Rearranged other expr
  | trans {expr between other : Expr} (h : Rearranged expr between)
      (hother : Rearranged between other) : Rearranged expr other
  | binary (op : BinaryOp) {left right newLeft newRight : Expr} (hleft : Rearranged left newLeft)
      (hright : Rearranged right newRight) :
      Rearranged (.binary op left right) (.binary op newLeft newRight)

variable {context : Context} {expr other : Expr} {n : Int}

/-- The sides of a law of arithmetic have the same exact value, or both have none. -/
theorem ArithmeticLaw.exact_value_eq (h : ArithmeticLaw expr other) (context : Context) :
    exactValue? context other = exactValue? context expr := by
  cases h with
  | add_comm x y | mul_comm x y =>
      rw [exactValue?, exactValue?]
      cases exactValue? context x <;> cases exactValue? context y <;>
        simp only [BinaryOp.onIntegers?, Option.some.injEq]
      ring
  | add_assoc x y z | mul_assoc x y z | add_sub_assoc x y z | sub_sub x y z | sub_add x y z
  | mul_add x y z | mul_sub x y z =>
      simp only [exactValue?]
      cases exactValue? context x <;> cases exactValue? context y <;>
        cases exactValue? context z <;> simp only [BinaryOp.onIntegers?, Option.some.injEq]
      ring

/-- A rearranged tree has the exact value of the tree, or both have none. -/
theorem Rearranged.exact_value_eq (h : Rearranged expr other) (context : Context) :
    exactValue? context other = exactValue? context expr := by
  induction h with
  | law h => exact h.exact_value_eq context
  | refl expr => rfl
  | symm h ih => exact ih.symm
  | trans h hother ih ihother => exact ihother.trans ih
  | binary op hleft hright ihleft ihright => rw [exactValue?, exactValue?, ihleft, ihright]

end Expr

/-! ## Evaluation -/

/-- Reducing integers to words commutes with sums, differences and products. -/
theorem BinaryOp.apply_of_int {op : BinaryOp} {x y n : Int} (h : op.onIntegers? x y = some n) :
    op.apply (.int (.ofInt x)) (.int (.ofInt y)) = .ok (.int (.ofInt n)) := by
  cases op with
  | add =>
      obtain rfl := Option.some.inj h
      rw [Int64.ofInt_add]
      rfl
  | sub =>
      obtain rfl := Option.some.inj h
      rw [Int64.ofInt_sub]
      rfl
  | mul =>
      obtain rfl := Option.some.inj h
      rw [Int64.ofInt_mul]
      rfl
  | _ => cases h

/-- A tree that there is room for is not cut off at its root. -/
theorem Expr.not_le_of_room {expr : Expr} {depth limit : Nat} (h : depth + expr.height ≤ limit) :
    ¬ limit ≤ depth := by
  have hpos := expr.height_pos
  omega

/-- Where there is room for its height, a tree is evaluated to its exact value as a word. -/
theorem Scope.eval_at_of_exact_value {scope : Scope} (calls : Calls) {expr : Expr} {n : Int}
    (h : expr.exactValue? scope.context = some n) {depth : Nat} (origin : Origin)
    (hdepth : depth + expr.height ≤ scope.maxDepth) :
    scope.evalAt calls depth origin expr = .ok (.int (.ofInt n)) := by
  fun_induction Expr.exactValue? scope.context expr generalizing n depth origin with
  | case1 value =>
      obtain rfl := Option.some.inj h
      rw [evalAt, if_neg (Expr.not_le_of_room hdepth), Int64.ofInt_toInt]
      rfl
  | case2 name value hname =>
      obtain rfl := Option.some.inj h
      rw [evalAt, if_neg (Expr.not_le_of_room hdepth), hname, Int64.ofInt_toInt]
      rfl
  | case4 op left right x y hright hleft ihleft ihright =>
      have hroom := Expr.not_le_of_room hdepth
      rw [Expr.height] at hdepth
      rw [evalAt, if_neg hroom, ihleft hleft (0 :: origin) (by omega),
        ihright hright (1 :: origin) (by omega)]
      change applyOp op _ _ = _
      rw [applyOp, BinaryOp.apply_of_int h]
  | _ => cases h

/-- The tree has the value in the context under every limit that is at least its height, whatever
else the evaluation depends on. -/
def Expr.EvaluatesTo (context : Context) (expr : Expr) (value : Value) : Prop :=
  ∀ (resolver : Resolver) (maxDepth : Nat) (host : Host) (budget : Nat) (origin : Origin),
    expr.height ≤ maxDepth →
      Scope.eval ⟨context, resolver, maxDepth⟩ host budget origin expr = .ok value

/-- A tree with an exact value is evaluated to that value as a word. -/
theorem Expr.evaluates_to_word {context : Context} {expr : Expr} {n : Int}
    (h : expr.exactValue? context = some n) : expr.EvaluatesTo context (.int (.ofInt n)) := by
  intro resolver maxDepth host budget origin hdepth
  refine Scope.eval_at_of_exact_value (.within host budget) h origin ?_
  rwa [Nat.zero_add]

/-- A tree of integers, variables that are integers, sums, differences and products is evaluated to
its value over the unbounded integers, reduced to the range of a word modulo 2^64, under every limit
that is at least its height. Every rearrangement of the tree is evaluated to the same word. -/
theorem Expr.value_modulo_word_size {context : Context} {expr : Expr} {n : Int}
    (h : expr.exactValue? context = some n) :
    ∃ w : Int64, w.toInt = n.bmod (2 ^ 64) ∧ expr.EvaluatesTo context (.int w) ∧
      ∀ other, Rearranged expr other → other.EvaluatesTo context (.int w) := by
  refine ⟨.ofInt n, Int64.toInt_ofInt, evaluates_to_word h, fun other hother => ?_⟩
  exact evaluates_to_word ((hother.exact_value_eq context).trans h)

/-- The product of three and of the integer behind the greatest word is 3 * 2^63, which is reduced
to the least word; the sum wraps around first. Multiplied out, the products wrap around. -/
theorem Expr.value_modulo_word_size_of_triple :
    let context := Context.empty.insert "x" (.int 3)
    let triple (factor : Expr) : Expr := .binary .mul (.atom "x") factor
    let greatest : Expr := .literal (.int 9223372036854775807)
    let one : Expr := .literal (.int 1)
    let product := triple (.binary .add greatest one)
    let sum : Expr := .binary .add (triple greatest) (triple one)
    product.exactValue? context = some (3 * 2 ^ 63) ∧
      product.EvaluatesTo context (.int (-9223372036854775808)) ∧
      sum.EvaluatesTo context (.int (-9223372036854775808)) := by
  intro context triple greatest one product sum
  have hexact : product.exactValue? context = some (3 * 2 ^ 63) := by decide
  obtain ⟨w, hw, hproduct, hsum⟩ := Expr.value_modulo_word_size hexact
  have hleast : w = -9223372036854775808 := by
    rw [← Int64.toInt_inj, hw]
    rfl
  rw [hleast] at hproduct hsum
  exact ⟨hexact, hproduct, hsum sum (.law (.mul_add _ _ _))⟩

end TextTemplate
