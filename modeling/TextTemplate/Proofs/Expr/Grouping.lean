import TextTemplate.Expr.Precedence

/-!
# Precedence

A grouping is well grouped when below every operator stand only operators that bind their operands
at least as tightly. For every chain of operands there is exactly one well-grouped grouping with
these operands and operators in this order, and `Grouping.ofChain` finds it. Operands that may be
errors are read in the order of the chain, however they are grouped (`Grouping.read_of_chain`).
-/

namespace TextTemplate

/-! ## Levels -/

namespace BinaryOp

/-- The operators of each level, from the lowest level. -/
def tiers : List (List BinaryOp) :=
  [[.eq, .ne, .gt, .ge, .lt, .le], [.concat], [.add, .sub], [.mul, .div], [.pow]]

/-- The place of the operator's level, counted from the lowest. -/
def tier (op : BinaryOp) : Nat :=
  tiers.findIdx (·.contains op)

/-- Whether operators of the level group from the right; the others group from the left. -/
def isRightAssociative (op : BinaryOp) : Bool :=
  op == .pow

/-- Whether the left operand of `op` may have `inner` at its root. -/
def admitsLeft (op inner : BinaryOp) : Bool :=
  op.tier < inner.tier || (inner.tier == op.tier && !op.isRightAssociative)

/-- Whether the right operand of `op` may have `inner` at its root. -/
def admitsRight (op inner : BinaryOp) : Bool :=
  op.tier < inner.tier || (inner.tier == op.tier && op.isRightAssociative)

/-- An operator keeps the operand behind it exactly if another one may not come to stand over
it. -/
theorem yields_to_eq_not_admits_left (op next : BinaryOp) :
    op.yieldsTo next = !next.admitsLeft op := by
  cases op <;> cases next <;> rfl

/-- An operator yields its right operand exactly to those that may stand at the root there. -/
theorem yields_to_eq_admits_right (op next : BinaryOp) :
    op.yieldsTo next = op.admitsRight next := by
  cases op <;> cases next <;> rfl

theorem admits_left_iff {op inner : BinaryOp} :
    op.admitsLeft inner ↔
      op.tier < inner.tier ∨ (inner.tier = op.tier ∧ op.isRightAssociative = false) := by
  simp [admitsLeft]

theorem admits_right_iff {op inner : BinaryOp} :
    op.admitsRight inner ↔
      op.tier < inner.tier ∨ (inner.tier = op.tier ∧ op.isRightAssociative) := by
  simp [admitsRight]

end BinaryOp

namespace Grouping

variable {α : Type}

/-! ## Well-grouped groupings -/

/-- The operator that binds last, if there is one. -/
def root? : Grouping α → Option BinaryOp
  | operand _ => none
  | group op _ _ => some op

/-- The operands and the operators between them, in their order. -/
def inOrder : Grouping α → α × List (BinaryOp × α)
  | operand first => (first, [])
  | group op left right =>
    (left.inOrder.1, left.inOrder.2 ++ (op, right.inOrder.1) :: right.inOrder.2)

/-- At every operator, the operators at the roots of its operands bind more tightly, or as tightly
on the side from which its level groups. -/
def WellGrouped : Grouping α → Prop
  | operand _ => True
  | group op left right =>
    (∀ inner ∈ left.root?, op.admitsLeft inner) ∧
      (∀ inner ∈ right.root?, op.admitsRight inner) ∧ left.WellGrouped ∧ right.WellGrouped

/-- Extending a grouping puts the operator and the operand behind all others. -/
theorem in_order_extend (op : BinaryOp) (last : α) (grouping : Grouping α) :
    (grouping.extend op last).inOrder =
      (grouping.inOrder.1, grouping.inOrder.2 ++ [(op, last)]) := by
  induction grouping with
  | operand first => rfl
  | group outer left right ihLeft ihRight =>
      rw [extend]
      split
      · rw [inOrder, ihRight, inOrder, List.append_assoc, List.cons_append]
      · rfl

/-- The root of an extended grouping is the new operator or the root that was there. -/
theorem root?_extend (op : BinaryOp) (last : α) (grouping : Grouping α) :
    (grouping.extend op last).root? = some op ∨
      (grouping.extend op last).root? = grouping.root? := by
  cases grouping with
  | operand first => exact .inl rfl
  | group outer left right =>
      rw [extend]
      split
      · exact .inr rfl
      · exact .inl rfl

/-- Extending a well-grouped grouping keeps it well grouped. -/
theorem WellGrouped.extend {grouping : Grouping α} (h : grouping.WellGrouped) (op : BinaryOp)
    (last : α) : (grouping.extend op last).WellGrouped := by
  induction grouping with
  | operand first => exact ⟨nofun, nofun, trivial, trivial⟩
  | group outer left right ihLeft ihRight =>
      obtain ⟨hleft, hright, hleftGrouped, hrightGrouped⟩ := h
      rw [Grouping.extend]
      split
      · -- The operator goes into the right operand, whose root may be the operator now.
        next hyields =>
          refine ⟨hleft, ?_, hleftGrouped, ihRight hrightGrouped⟩
          intro inner hinner
          rcases root?_extend op last right with hroot | hroot
          · rw [hroot, Option.mem_some_iff] at hinner
            rw [← hinner, ← BinaryOp.yields_to_eq_admits_right]
            exact hyields
          · exact hright inner (hroot ▸ hinner)
      · next hyields =>
          refine ⟨?_, nofun, ⟨hleft, hright, hleftGrouped, hrightGrouped⟩, trivial⟩
          intro inner hinner
          obtain rfl := Option.mem_some_iff.mp hinner
          simpa [BinaryOp.yields_to_eq_not_admits_left] using hyields

/-- Adds a chain of operators with their right operands behind everything else. -/
def extendAll (grouping : Grouping α) (more : List (BinaryOp × α)) : Grouping α :=
  more.foldl (fun grouping (op, last) => grouping.extend op last) grouping

theorem of_chain_eq (first : α) (more : List (BinaryOp × α)) :
    ofChain first more = (operand first).extendAll more :=
  rfl

theorem extend_all_cons (grouping : Grouping α) (next : BinaryOp × α)
    (more : List (BinaryOp × α)) :
    grouping.extendAll (next :: more) = (grouping.extend next.1 next.2).extendAll more :=
  rfl

theorem extend_all_append (grouping : Grouping α) (more further : List (BinaryOp × α)) :
    grouping.extendAll (more ++ further) = (grouping.extendAll more).extendAll further :=
  List.foldl_append

/-- Extending a grouping by a chain puts the chain behind all operands that are there. -/
theorem in_order_extend_all (more : List (BinaryOp × α)) (grouping : Grouping α) :
    (grouping.extendAll more).inOrder = (grouping.inOrder.1, grouping.inOrder.2 ++ more) := by
  induction more generalizing grouping with
  | nil =>
      rw [List.append_nil]
      rfl
  | cons next more ih =>
      rw [extend_all_cons, ih, in_order_extend, List.append_assoc, List.singleton_append]

/-- The grouping of a chain has the operands and operators of the chain, in their order. -/
theorem in_order_of_chain (first : α) (more : List (BinaryOp × α)) :
    (ofChain first more).inOrder = (first, more) := by
  rw [of_chain_eq, in_order_extend_all, inOrder, List.nil_append]

/-- Extending a well-grouped grouping by a chain keeps it well grouped. -/
theorem WellGrouped.extend_all (more : List (BinaryOp × α)) {grouping : Grouping α}
    (h : grouping.WellGrouped) : (grouping.extendAll more).WellGrouped := by
  induction more generalizing grouping with
  | nil => exact h
  | cons next more ih => exact ih (h.extend next.1 next.2)

/-- The grouping of a chain is well grouped. -/
theorem well_grouped_of_chain (first : α) (more : List (BinaryOp × α)) :
    (ofChain first more).WellGrouped :=
  WellGrouped.extend_all more trivial

/-! ## Uniqueness -/

/-- A grouping with operators has one at its root. -/
theorem exists_root_of_mem {grouping : Grouping α} {next : BinaryOp × α}
    (h : next ∈ grouping.inOrder.2) : ∃ root, root ∈ grouping.root? := by
  cases grouping with
  | operand first => cases h
  | group op left right => exact ⟨op, rfl⟩

/-- No operator binds less tightly than the one at the root. -/
theorem WellGrouped.tier_le {grouping : Grouping α} (h : grouping.WellGrouped) {root : BinaryOp}
    (hroot : root ∈ grouping.root?) : ∀ next ∈ grouping.inOrder.2, root.tier ≤ next.1.tier := by
  induction grouping generalizing root with
  | operand first => cases hroot
  | group op left right ihLeft ihRight =>
      obtain rfl := Option.mem_some_iff.mp hroot
      obtain ⟨hleft, hright, hleftGrouped, hrightGrouped⟩ := h
      intro next hnext
      rw [inOrder, List.mem_append, List.mem_cons] at hnext
      rcases hnext with hnext | rfl | hnext
      · obtain ⟨inner, hinner⟩ := exists_root_of_mem hnext
        have hbelow := ihLeft hleftGrouped hinner next hnext
        have hadmits := BinaryOp.admits_left_iff.mp (hleft inner hinner)
        omega
      · exact Nat.le_refl _
      · obtain ⟨inner, hinner⟩ := exists_root_of_mem hnext
        have hbelow := ihRight hrightGrouped hinner next hnext
        have hadmits := BinaryOp.admits_right_iff.mp (hright inner hinner)
        omega

/-- Every operator of a right operand may stand at the root there. -/
theorem WellGrouped.admits_right {op : BinaryOp} {left right : Grouping α}
    (h : (group op left right).WellGrouped) :
    ∀ next ∈ right.inOrder.2, op.admitsRight next.1 := by
  obtain ⟨-, hright, -, hrightGrouped⟩ := h
  intro next hnext
  obtain ⟨inner, hinner⟩ := exists_root_of_mem hnext
  have hbelow := hrightGrouped.tier_le hinner next hnext
  rw [BinaryOp.admits_right_iff]
  rcases BinaryOp.admits_right_iff.mp (hright inner hinner) with hless | ⟨htier, hassociative⟩
  · exact .inl (Nat.lt_of_lt_of_le hless hbelow)
  · rcases Nat.lt_or_eq_of_le (htier ▸ hbelow) with hless | heq
    · exact .inl hless
    · exact .inr ⟨heq.symm, hassociative⟩

/-- What may stand at the root of the left operand becomes the left operand. -/
theorem extend_eq_group {op : BinaryOp} {grouping : Grouping α}
    (h : ∀ root ∈ grouping.root?, op.admitsLeft root) (last : α) :
    grouping.extend op last = group op grouping (operand last) := by
  cases grouping with
  | operand first => rfl
  | group outer left right =>
      have hadmits : op.admitsLeft outer := h outer rfl
      rw [extend, BinaryOp.yields_to_eq_not_admits_left, hadmits]
      rfl

/-- A chain of operators that may stand in the right operand extends the right operand. -/
theorem extend_all_group {op : BinaryOp} {more : List (BinaryOp × α)}
    (h : ∀ next ∈ more, op.admitsRight next.1) (left right : Grouping α) :
    (group op left right).extendAll more = group op left (right.extendAll more) := by
  induction more generalizing right with
  | nil => rfl
  | cons next more ih =>
      obtain ⟨hnext, hmore⟩ := List.forall_mem_cons.mp h
      have hextend : (group op left right).extend next.1 next.2 =
          group op left (right.extend next.1 next.2) := by
        rw [extend, BinaryOp.yields_to_eq_admits_right, if_pos hnext]
      rw [extend_all_cons, extend_all_cons, hextend, ih hmore]

/-- A well-grouped grouping is the one that its own chain is grouped to. -/
theorem WellGrouped.of_chain_in_order {grouping : Grouping α} (h : grouping.WellGrouped) :
    ofChain grouping.inOrder.1 grouping.inOrder.2 = grouping := by
  induction grouping with
  | operand first => rfl
  | group op left right ihLeft ihRight =>
      -- The chain builds the left operand, which the operator then takes as a whole; everything
      -- behind the operator stays within the right operand.
      have hright := h.admits_right
      obtain ⟨hleft, -, hleftGrouped, hrightGrouped⟩ := h
      have hleftChain := ihLeft hleftGrouped
      have hrightChain := ihRight hrightGrouped
      rw [of_chain_eq] at hleftChain hrightChain
      rw [of_chain_eq, inOrder, extend_all_append, extend_all_cons, hleftChain,
        extend_eq_group hleft, extend_all_group hright, hrightChain]

/-! ## Operands that may be errors -/

section

variable {ε : Type}

/-- Reads the operands of a grouping. At an operator, an error of the left operand comes before one
of the right operand. -/
def readOperands : Grouping (Except ε α) → Except ε (Grouping α)
  | operand first => do
    let first ← first
    return operand first
  | group op left right => do
    let left ← left.readOperands
    let right ← right.readOperands
    return group op left right

/-- An operand that is added behind everything else is read last. -/
theorem read_extend (op : BinaryOp) (last : Except ε α) (grouping : Grouping (Except ε α)) :
    (grouping.extend op last).readOperands = (do
      let grouping ← grouping.readOperands
      let last ← last
      return grouping.extend op last) := by
  induction grouping with
  | operand first =>
      simp only [extend, readOperands, bind_assoc, pure_bind]
  | group outer left right _ ihRight =>
      rw [extend]
      split
      · next hyields =>
          simp only [readOperands, ihRight, bind_assoc, pure_bind, extend, if_pos hyields]
      · next hyields =>
          simp only [readOperands, bind_assoc, pure_bind, extend, if_neg hyields]

/-- The operands of a chain are read in the order in which they stand, however they are grouped. -/
theorem read_of_chain (first : Except ε α) (more : List (BinaryOp × Except ε α)) :
    (ofChain first more).readOperands = (do
      let first ← first
      let more ← more.mapM fun operation => do
        let last ← operation.2
        return (operation.1, last)
      return ofChain first more) := by
  have hextend : ∀ grouping : Grouping (Except ε α),
      (grouping.extendAll more).readOperands = (do
        let grouping ← grouping.readOperands
        let more ← more.mapM fun operation => do
          let last ← operation.2
          return (operation.1, last)
        return grouping.extendAll more) := by
    induction more with
    | nil => exact fun grouping => (bind_pure _).symm
    | cons operation more ih =>
        intro grouping
        rw [extend_all_cons, ih, read_extend]
        simp only [List.mapM_cons, bind_assoc, pure_bind, extend_all_cons]
  rw [of_chain_eq, hextend]
  simp only [readOperands, bind_assoc, pure_bind, of_chain_eq]

/-- The tree of a grouping is that of its operands, once they are read. -/
theorem read_expr_eq (grouping : Grouping (Except ε Expr)) :
    grouping.readExpr = (do
      let grouping ← grouping.readOperands
      return grouping.toExpr) := by
  induction grouping with
  | operand first => simp only [readExpr, readOperands, bind_assoc, pure_bind, toExpr, bind_pure]
  | group op left right ihLeft ihRight =>
      simp only [readExpr, ihLeft, ihRight, readOperands, bind_assoc, pure_bind, toExpr]

end

/-! ## Trees as groupings -/

/-- A tree taken apart at its operators. -/
def ofExpr : Expr → Grouping Expr
  | .binary op left right => group op (ofExpr left) (ofExpr right)
  | expr => operand expr

/-- Putting the parts together again gives the tree. -/
theorem to_expr_of_expr (expr : Expr) : (ofExpr expr).toExpr = expr := by
  induction expr using ofExpr.induct with
  | case1 op left right ihLeft ihRight => rw [ofExpr, toExpr, ihLeft, ihRight]
  | case2 expr h =>
      rw [ofExpr]
      · rfl
      · exact h

/-- Operands that have no operator at their root are the parts of their tree. -/
theorem of_expr_to_expr {grouping : Grouping Expr}
    (hfirst : ofExpr grouping.inOrder.1 = operand grouping.inOrder.1)
    (hmore : ∀ next ∈ grouping.inOrder.2, ofExpr next.2 = operand next.2) :
    ofExpr grouping.toExpr = grouping := by
  induction grouping with
  | operand expr => exact hfirst
  | group op left right ihLeft ihRight =>
      rw [inOrder] at hfirst
      rw [inOrder, List.forall_mem_append, List.forall_mem_cons] at hmore
      obtain ⟨hleft, hnext, hright⟩ := hmore
      rw [toExpr, ofExpr, ihLeft hfirst hleft, ihRight hnext hright]

end Grouping

/-- The tree is a well-grouped one of these operands and operators in this order. -/
structure Expr.Groups (tree first : Expr) (more : List (BinaryOp × Expr)) : Prop where
  inOrder : (Grouping.ofExpr tree).inOrder = (first, more)
  wellGrouped : (Grouping.ofExpr tree).WellGrouped

/-- Operands without operators have exactly one well-grouped tree, the one of their chain. -/
theorem Expr.groups_iff {tree first : Expr} {more : List (BinaryOp × Expr)}
    (hfirst : Grouping.ofExpr first = .operand first)
    (hmore : ∀ next ∈ more, Grouping.ofExpr next.2 = .operand next.2) :
    tree.Groups first more ↔ tree = .ofChain first more := by
  constructor
  · intro h
    have hchain := h.wellGrouped.of_chain_in_order
    rw [h.inOrder] at hchain
    rw [ofChain, hchain, Grouping.to_expr_of_expr]
  · rintro rfl
    -- The operands stay whole when the tree is taken apart, as none of them is a binary tree.
    have horder := Grouping.in_order_of_chain first more
    have hparts : Grouping.ofExpr (ofChain first more) = Grouping.ofChain first more :=
      Grouping.of_expr_to_expr (by rw [horder]; exact hfirst) (by rw [horder]; exact hmore)
    exact ⟨by rw [hparts, horder], by rw [hparts]; exact Grouping.well_grouped_of_chain first more⟩

end TextTemplate
