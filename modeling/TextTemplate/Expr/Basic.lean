import TextTemplate.Time.Timestamp

/-!
# Expression trees

The trees that templates are made of. A template is a list of trees, one for each stretch of text
and each expression in it.
-/

namespace TextTemplate

/-- The binary operators. -/
inductive BinaryOp where
  | add
  | sub
  | mul
  | div
  | pow
  | concat
  | eq
  | ne
  | gt
  | ge
  | lt
  | le
deriving DecidableEq, Repr

namespace BinaryOp

/-- All operators. -/
def all : List BinaryOp :=
  [.add, .sub, .mul, .div, .pow, .concat, .eq, .ne, .gt, .ge, .lt, .le]

/-- How the operator is written in messages. -/
def symbol : BinaryOp → String
  | add => "+"
  | sub => "-"
  | mul => "*"
  | div => "/"
  | pow => "^"
  | concat => "&"
  | eq => "=="
  | ne => "!="
  | gt => ">"
  | ge => ">="
  | lt => "<"
  | le => "<="

/-- Whether the operator refuses operands that are no numbers. A power is not among these, since it
has an error of its own. -/
def isNumeric : BinaryOp → Bool
  | add | sub | mul | div | gt | ge | lt | le => true
  | pow | concat | eq | ne => false

end BinaryOp

/-- The values that can be written down. -/
inductive Literal where
  | int (value : Int64)
  | float (value : Float)
  | bool (value : Bool)
  | str (text : String)
  | dateTime (value : Time.Timestamp)

/-- Expression trees. -/
inductive Expr where
  /-- Text between expressions. -/
  | text (text : String)
  | literal (value : Literal)
  /-- A variable. -/
  | atom (name : String)
  /-- A property by its name. -/
  | property (subject : Expr) (key : String)
  /-- A property, an element or a slice by a computed index. -/
  | access (subject index : Expr)
  | function (name : String) (args : List Expr)
  /-- A function without a name; its body must have exactly one value. -/
  | lambda (body : List Expr)
  /-- An argument of the enclosing lambda, counted from one. -/
  | capture (index : UInt64)
  | range (start stop : Expr) (step : Option Expr)
  | list (items : List Expr)
  | binary (op : BinaryOp) (left right : Expr)

/-- A template: text and expressions in their order. -/
abbrev Template := List Expr

namespace Literal

/-- Whether two literals are equal, where doubles are compared as numbers and timestamps as
instants. -/
def sameValue : Literal → Literal → Bool
  | int x, int y => x == y
  | float x, float y => x == y
  | bool x, bool y => x == y
  | str x, str y => x == y
  | dateTime x, dateTime y => x.sameInstant y
  | _, _ => false

end Literal

namespace Expr

mutual
/-- Whether two trees are equal, where doubles are compared as numbers and timestamps as
instants. -/
def same : Expr → Expr → Bool
  | text x, text y => x == y
  | literal x, literal y => x.sameValue y
  | atom x, atom y => x == y
  | property x k, property y l => same x y && k == l
  | access x i, access y j => same x y && same i j
  | function f xs, function g ys => f == g && sameAll xs ys
  | lambda xs, lambda ys => sameAll xs ys
  | capture i, capture j => i == j
  | range a b c, range x y z => same a x && same b y && sameStep c z
  | list xs, list ys => sameAll xs ys
  | binary o a b, binary p x y => o == p && same a x && same b y
  | _, _ => false

/-- Whether two lists of trees are equal, one by one. -/
def sameAll : List Expr → List Expr → Bool
  | [], [] => true
  | x :: xs, y :: ys => same x y && sameAll xs ys
  | _, _ => false

/-- Whether two optional trees are equal. -/
def sameStep : Option Expr → Option Expr → Bool
  | none, none => true
  | some x, some y => same x y
  | _, _ => false
end

end Expr

end TextTemplate
