import TextTemplate.Expr.Basic

/-!
# Precedence

A chain of operands with operators between them becomes a tree: the operators of a higher level bind
their operands first, and operators of one level group from the left, except that powers group from
the right. `Grouping.ofChain` adds the operands one by one along the right edge of the tree built so
far.
-/

namespace TextTemplate

/-- The level of an operator; a higher one binds its operands first. -/
def BinaryOp.level : BinaryOp → Nat
  | eq | ne | gt | ge | lt | le => 1
  | concat => 2
  | add | sub => 3
  | mul | div => 4
  | pow => 5

/-- Whether `next`, written behind `op` and the operand between them, takes that operand. -/
def BinaryOp.yieldsTo (op next : BinaryOp) : Bool :=
  if op.level = next.level then op = .pow else op.level < next.level

/-- Operands grouped by operators. -/
inductive Grouping (α : Type) where
  | operand (operand : α)
  | group (op : BinaryOp) (left right : Grouping α)

namespace Grouping

variable {α ε : Type}

/-- Adds an operator with its right operand behind everything else. -/
def extend (op : BinaryOp) (last : α) : Grouping α → Grouping α
  | .operand first => .group op (.operand first) (.operand last)
  | .group outer left right =>
    if outer.yieldsTo op then .group outer left (extend op last right)
    else .group op (.group outer left right) (.operand last)

/-- Groups a chain of operands. -/
def ofChain (first : α) (more : List (BinaryOp × α)) : Grouping α :=
  more.foldl (fun grouping (op, last) => grouping.extend op last) (.operand first)

/-- The tree of the grouping. -/
def toExpr : Grouping Expr → Expr
  | .operand expr => expr
  | .group op left right => .binary op left.toExpr right.toExpr

/-- The tree of a grouping of operands that may be errors. At an operator, the error of the left
operand comes before that of the right operand. -/
def readExpr : Grouping (Except ε Expr) → Except ε Expr
  | .operand expr => expr
  | .group op left right => do
    let left ← left.readExpr
    let right ← right.readExpr
    return .binary op left right

end Grouping

/-- The tree of a chain of operands. -/
def Expr.ofChain (first : Expr) (more : List (BinaryOp × Expr)) : Expr :=
  (Grouping.ofChain first more).toExpr

end TextTemplate
