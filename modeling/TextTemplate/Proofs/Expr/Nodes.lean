import TextTemplate.Proofs.Eval.Closures

/-!
# The nodes of a tree

`Expr.nodes` lists a tree and all trees within it, those in the bodies of lambdas included.
`nodes_subset_of_mem_lambdas` says that a lambda which an evaluation may turn into a closure is such
a node, together with everything in its body. `Expr.height` counts the nodes on the longest path.
-/

namespace TextTemplate

namespace Expr

mutual
/-- The tree itself and the trees within it. -/
def nodes : Expr → List Expr
  | .text content => [.text content]
  | .literal value => [.literal value]
  | .atom name => [.atom name]
  | .property subject key => .property subject key :: subject.nodes
  | .access subject index => .access subject index :: (subject.nodes ++ index.nodes)
  | .function name args => .function name args :: nodesOfAll args
  | .lambda body => .lambda body :: nodesOfAll body
  | .capture index => [.capture index]
  | .range start stop step =>
    .range start stop step :: (start.nodes ++ (stop.nodes ++ nodesOfStep step))
  | .list items => .list items :: nodesOfAll items
  | .binary op left right => .binary op left right :: (left.nodes ++ right.nodes)

/-- The trees and the trees within them. -/
def nodesOfAll : List Expr → List Expr
  | [] => []
  | expr :: exprs => expr.nodes ++ nodesOfAll exprs

/-- The step of a range and the trees within it. -/
def nodesOfStep : Option Expr → List Expr
  | none => []
  | some expr => expr.nodes
end

/-- A tree is one of its own nodes. -/
theorem mem_nodes_self (expr : Expr) : expr ∈ expr.nodes := by
  cases expr <;> exact List.mem_cons_self

/-- The nodes of trees are nodes of one of them. -/
theorem exists_of_mem_nodes_of_all {node : Expr} {exprs : List Expr} (h : node ∈ nodesOfAll exprs) :
    ∃ expr ∈ exprs, node ∈ expr.nodes := by
  induction exprs with
  | nil => cases h
  | cons expr exprs ih =>
      rcases List.mem_append.mp h with h | h
      · exact ⟨expr, List.mem_cons_self, h⟩
      · obtain ⟨other, hother, hnode⟩ := ih h
        exact ⟨other, List.mem_cons_of_mem _ hother, hnode⟩

mutual
/-- The outermost lambdas of a tree are nodes of the tree, and so are their own nodes. -/
theorem nodes_subset_of_mem_lambdas {body : List Expr} : (expr : Expr) → body ∈ expr.lambdas →
    (Expr.lambda body).nodes ⊆ expr.nodes
  | .lambda inner, h => by
      rw [List.mem_singleton.mp h]
      exact List.Subset.refl _
  | .property subject _, h =>
      List.subset_cons_of_subset _ (nodes_subset_of_mem_lambdas subject h)
  | .access subject index, h => by
      refine List.subset_cons_of_subset _ ?_
      rcases List.mem_append.mp h with h | h
      · exact List.subset_append_of_subset_left _ (nodes_subset_of_mem_lambdas subject h)
      · exact List.subset_append_of_subset_right _ (nodes_subset_of_mem_lambdas index h)
  | .function _ args, h =>
      List.subset_cons_of_subset _ (nodes_subset_of_mem_lambdas_of_all args h)
  | .range start stop step, h => by
      refine List.subset_cons_of_subset _ ?_
      rcases List.mem_append.mp h with h | h
      · exact List.subset_append_of_subset_left _ (nodes_subset_of_mem_lambdas start h)
      · refine List.subset_append_of_subset_right _ ?_
        rcases List.mem_append.mp h with h | h
        · exact List.subset_append_of_subset_left _ (nodes_subset_of_mem_lambdas stop h)
        · exact List.subset_append_of_subset_right _ (nodes_subset_of_mem_lambdas_of_step step h)
  | .list items, h =>
      List.subset_cons_of_subset _ (nodes_subset_of_mem_lambdas_of_all items h)
  | .binary _ left right, h => by
      refine List.subset_cons_of_subset _ ?_
      rcases List.mem_append.mp h with h | h
      · exact List.subset_append_of_subset_left _ (nodes_subset_of_mem_lambdas left h)
      · exact List.subset_append_of_subset_right _ (nodes_subset_of_mem_lambdas right h)

/-- The outermost lambdas of trees are nodes of the trees, and so are their own nodes. -/
theorem nodes_subset_of_mem_lambdas_of_all {body : List Expr} : (exprs : List Expr) →
    body ∈ lambdasOfAll exprs → (Expr.lambda body).nodes ⊆ nodesOfAll exprs
  | [], h => absurd h List.not_mem_nil
  | expr :: exprs, h => by
      rw [nodesOfAll]
      rcases List.mem_append.mp h with h | h
      · exact List.subset_append_of_subset_left _ (nodes_subset_of_mem_lambdas expr h)
      · exact List.subset_append_of_subset_right _ (nodes_subset_of_mem_lambdas_of_all exprs h)

/-- The outermost lambdas of a step are nodes of the step, and so are their own nodes. -/
theorem nodes_subset_of_mem_lambdas_of_step {body : List Expr} : (step : Option Expr) →
    body ∈ lambdasOfStep step → (Expr.lambda body).nodes ⊆ nodesOfStep step
  | none, h => absurd h List.not_mem_nil
  | some expr, h => nodes_subset_of_mem_lambdas expr h
end

/-! ## Height -/

mutual
/-- The number of nodes on the longest path from the tree to a leaf, through the bodies of lambdas
as through all other trees. -/
def height : Expr → Nat
  | .text _ | .literal _ | .atom _ | .capture _ => 1
  | .property subject _ => subject.height + 1
  | .access subject index => max subject.height index.height + 1
  | .function _ args => heightOfAll args + 1
  | .lambda body => heightOfAll body + 1
  | .range start stop step => max start.height (max stop.height (heightOfStep step)) + 1
  | .list items => heightOfAll items + 1
  | .binary _ left right => max left.height right.height + 1

/-- The height of the highest one of the trees. -/
def heightOfAll : List Expr → Nat
  | [] => 0
  | expr :: exprs => max expr.height (heightOfAll exprs)

/-- The height of the step of a range. -/
def heightOfStep : Option Expr → Nat
  | none => 0
  | some expr => expr.height
end

/-- The tree itself is on every path. -/
theorem height_pos (expr : Expr) : 0 < expr.height := by
  cases expr <;> simp [height]

/-! ## Variables -/

/-- The name of a variable. -/
def atom? : Expr → Option String
  | .atom name => some name
  | _ => none

/-- The variables among the nodes. -/
def atomNames (nodes : List Expr) : List String :=
  nodes.filterMap atom?

/-- The variables among the nodes are the names of the atoms. -/
theorem mem_atom_names {name : String} {nodes : List Expr} :
    name ∈ atomNames nodes ↔ .atom name ∈ nodes := by
  rw [atomNames, List.mem_filterMap]
  constructor
  · rintro ⟨node, hnode, hname⟩
    cases node with
    | atom other =>
        cases hname
        exact hnode
    | _ => cases hname
  · exact fun h => ⟨.atom name, h, rfl⟩

/-- The variables among the nodes are among the keys. -/
def AtomsWithin (keys : List String) (nodes : List Expr) : Prop :=
  ∀ name, .atom name ∈ nodes → name ∈ keys

namespace AtomsWithin

variable {keys : List String}

/-- Fewer nodes have fewer variables. -/
theorem mono {nodes others : List Expr} (h : AtomsWithin keys nodes) (hsubset : others ⊆ nodes) :
    AtomsWithin keys others :=
  fun name hname => h name (hsubset hname)

/-- The nodes behind the first one have fewer variables. -/
theorem of_cons {node : Expr} {nodes : List Expr} (h : AtomsWithin keys (node :: nodes)) :
    AtomsWithin keys nodes :=
  h.mono (List.subset_cons_self _ _)

/-- The variables of two parts are those of each part. -/
theorem of_append {first second : List Expr} (h : AtomsWithin keys (first ++ second)) :
    AtomsWithin keys first ∧ AtomsWithin keys second :=
  ⟨h.mono (List.subset_append_left _ _), h.mono (List.subset_append_right _ _)⟩

end AtomsWithin

end Expr

end TextTemplate
