import TextTemplate.Proofs.Expr.Leaves
import TextTemplate.Proofs.Expr.Nodes

/-!
# Trees and their interchange form

The interchange form of a tree is read as the tree, provided that it nests no deeper than the reader
goes: `decode_within?_encode` holds in both directions, so that a tree nested deeper is refused. The
levels are counted by `Document.levels`. What is asked of the literals is
`Literal.IsInterchangeable`.
-/

namespace TextTemplate

open Json (Document)

/-! ## Levels -/

namespace Json

mutual
/-- How deeply arrays and objects are nested in the document. -/
def Document.levels : Document → Nat
  | .null | .boolean _ | .number _ | .string _ => 0
  | .array items => levelsOfItems items + 1
  | .object members => levelsOfMembers members + 1

/-- How deeply arrays and objects are nested in the items. -/
def levelsOfItems : List Document → Nat
  | [] => 0
  | item :: items => max item.levels (levelsOfItems items)

/-- How deeply arrays and objects are nested in the values of the members. -/
def levelsOfMembers : List (Option String × Document) → Nat
  | [] => 0
  | (_, value) :: members => max value.levels (levelsOfMembers members)
end

namespace Document

/-- A field is one level below its object. -/
theorem levels_of_one (first : String) (x : Document) :
    (ofMembers [(first, x)]).levels = x.levels + 1 := by
  simp [ofMembers, levels, levelsOfMembers]

/-- A node is one level above what it contains. -/
theorem levels_node (kind : String) (content : Document) :
    (node kind content).levels = content.levels + 1 :=
  levels_of_one kind content

/-- Fields are one level below their object. -/
theorem levels_of_two (first second : String) (x y : Document) :
    (ofMembers [(first, x), (second, y)]).levels = max x.levels y.levels + 1 := by
  simp [ofMembers, levels, levelsOfMembers]

/-- Fields are one level below their object. -/
theorem levels_of_three (first second third : String) (x y z : Document) :
    (ofMembers [(first, x), (second, y), (third, z)]).levels =
      max x.levels (max y.levels z.levels) + 1 := by
  simp [ofMembers, levels, levelsOfMembers]

/-! ## Fields -/

/-- The members of an object with text keys. -/
theorem of_members_eq (members : List (String × Document)) :
    ofMembers members = .object (members.map fun member => (some member.1, member.2)) :=
  rfl

/-- The first member counts among the values of a field if it has the key. -/
theorem values_of_cons (name key : String) (value : Document)
    (members : List (Option String × Document)) :
    valuesOf name ((some key, value) :: members) =
      if key = name then value :: valuesOf name members else valuesOf name members := by
  by_cases hkey : key = name <;> simp [valuesOf, hkey]

/-- Where no member has the key, the field has no value. -/
theorem values_of_eq_nil {name : String} {members : List (String × Document)}
    (h : name ∉ members.map (·.1)) :
    valuesOf name (members.map fun member => (some member.1, member.2)) = [] := by
  induction members with
  | nil => rfl
  | cons first members ih =>
      obtain ⟨hfirst, hmembers⟩ := not_or.mp (mt List.mem_cons.mpr h)
      rw [List.map_cons, values_of_cons, if_neg (Ne.symm hfirst)]
      exact ih hmembers

/-- In an object with distinct keys, a field has the value of its member. -/
theorem values_of_of_mem {members : List (String × Document)}
    (hdistinct : (members.map (·.1)).Nodup) {member : String × Document} (h : member ∈ members) :
    valuesOf member.1 (members.map fun member => (some member.1, member.2)) = [member.2] := by
  induction members with
  | nil => cases h
  | cons first members ih =>
      obtain ⟨hfresh, hdistinct⟩ := List.nodup_cons.mp hdistinct
      rw [List.map_cons, values_of_cons]
      rcases List.mem_cons.mp h with rfl | h
      · rw [if_pos rfl, values_of_eq_nil hfresh]
      · have hkey : first.1 ≠ member.1 := fun heq =>
          hfresh (List.mem_map.mpr ⟨member, h, heq.symm⟩)
        rw [if_neg hkey]
        exact ih hdistinct h

/-- Every field of an object with distinct keys is found. -/
theorem fields?_of_members {members : List (String × Document)}
    (hdistinct : (members.map (·.1)).Nodup) :
    (ofMembers members).fields? (members.map (·.1)) =
      some (members.map fun member => some member.2) := by
  have hfields : ∀ wanted : List (String × Document), (∀ member ∈ wanted, member ∈ members) →
      fieldsOfMembers? (members.map fun member => (some member.1, member.2)) (wanted.map (·.1)) =
        some (wanted.map fun member => some member.2) := by
    intro wanted hwanted
    induction wanted with
    | nil => rfl
    | cons member wanted ih =>
        obtain ⟨hmember, hwanted⟩ := List.forall_mem_cons.mp hwanted
        rw [List.map_cons, fieldsOfMembers?, values_of_of_mem hdistinct hmember, ih hwanted]
        rfl
  have hkeys : ¬ (members.map fun member => (some member.1, member.2)).any
      fun member => member.1.isNone := by
    simp
  rw [of_members_eq, fields?]
  exact (if_neg hkeys).trans (hfields members fun _ h => h)

end Document

end Json

/-- A literal takes one level. -/
theorem levels_encode_literal (literal : Literal) :
    (literal.encodeWith .ofFloat).levels = 1 := by
  cases literal with
  | float x =>
      rw [Literal.encodeWith, Document.levels_node, Document.ofFloat]
      split <;> rfl
  | _ => rfl

/-! ## Nodes -/

/-- What is guarded by a condition and goes on is guarded by the condition. -/
theorem bind_guarded {α β : Type} {p : Prop} [Decidable p] (value : α) (next : α → Option β) :
    (if p then some value else none).bind next = if p then next value else none :=
  apply_ite_left Option.bind p (some value) none next

namespace Expr

theorem decode_within?_list (depth : Nat) (content : Document) :
    decodeWithin? depth (.node "list" content) =
      if 2 ≤ depth then (decodeItems? (decodeWithin? (depth - 2)) content).map .list else none := by
  match depth with
  | 0 => rfl
  | 1 => exact decode_within?_one (by decide) (by decide) (by decide) _
  | depth + 2 =>
      rw [if_pos (Nat.le_add_left 2 depth), Nat.add_sub_cancel]
      simp only [decodeWithin?, Document.single?_node, Option.bind_eq_bind, Option.bind_some,
        String.reduceEq, imp_self]

theorem decode_within?_attribute (depth : Nat) (subject : Document) (key : String) :
    decodeWithin? depth
        (.node "attribute" (.ofMembers [("subject", subject), ("key", .ofText key)])) =
      if 2 ≤ depth then (decodeWithin? (depth - 2) subject).bind fun subject =>
        some (.property subject key) else none := by
  have hfields : (Document.ofMembers [("subject", subject), ("key", .ofText key)]).fields?
      ["subject", "key"] = some [some subject, some (.ofText key)] :=
    Document.fields?_of_members (by simp)
  match depth with
  | 0 => rfl
  | 1 => exact decode_within?_one (by decide) (by decide) (by decide) _
  | depth + 2 =>
      rw [if_pos (Nat.le_add_left 2 depth), Nat.add_sub_cancel]
      simp only [decodeWithin?, Document.single?_node, Option.bind_eq_bind, Option.bind_some,
        String.reduceEq, imp_self, hfields, Document.text?_of_text]
      rfl

theorem decode_within?_access (depth : Nat) (subject index : Document) :
    decodeWithin? depth (.node "access" (.ofMembers [("subject", subject), ("index", index)])) =
      if 2 ≤ depth then (decodeWithin? (depth - 2) subject).bind fun subject =>
        (decodeWithin? (depth - 2) index).bind fun index => some (.access subject index)
      else none := by
  have hfields : (Document.ofMembers [("subject", subject), ("index", index)]).fields?
      ["subject", "index"] = some [some subject, some index] :=
    Document.fields?_of_members (by simp)
  match depth with
  | 0 => rfl
  | 1 => exact decode_within?_one (by decide) (by decide) (by decide) _
  | depth + 2 =>
      rw [if_pos (Nat.le_add_left 2 depth), Nat.add_sub_cancel]
      simp only [decodeWithin?, Document.single?_node, Option.bind_eq_bind, Option.bind_some,
        String.reduceEq, imp_self, hfields]
      rfl

theorem decode_within?_range (depth : Nat) (start stop step : Document) :
    decodeWithin? depth
        (.node "range" (.ofMembers [("start", start), ("end", stop), ("step", step)])) =
      if 2 ≤ depth then (decodeWithin? (depth - 2) start).bind fun start =>
        (decodeWithin? (depth - 2) stop).bind fun stop =>
          (decodeStep? (decodeWithin? (depth - 2)) (some step)).bind fun step =>
            some (.range start stop step)
      else none := by
  have hfields : (Document.ofMembers [("start", start), ("end", stop), ("step", step)]).fields?
      ["start", "end", "step"] = some [some start, some stop, some step] :=
    Document.fields?_of_members (by simp)
  match depth with
  | 0 => rfl
  | 1 => exact decode_within?_one (by decide) (by decide) (by decide) _
  | depth + 2 =>
      rw [if_pos (Nat.le_add_left 2 depth), Nat.add_sub_cancel]
      simp only [decodeWithin?, Document.single?_node, Option.bind_eq_bind, Option.bind_some,
        String.reduceEq, imp_self, hfields]
      rfl

theorem decode_within?_binary (depth : Nat) (op : BinaryOp) (left right : Document) :
    decodeWithin? depth
        (.node "binary" (.ofMembers [("op", .ofText op.name), ("left", left), ("right", right)])) =
      if 2 ≤ depth then (decodeWithin? (depth - 2) left).bind fun left =>
        (decodeWithin? (depth - 2) right).bind fun right => some (.binary op left right)
      else none := by
  have hfields : (Document.ofMembers
      [("op", .ofText op.name), ("left", left), ("right", right)]).fields? ["op", "left", "right"] =
        some [some (.ofText op.name), some left, some right] :=
    Document.fields?_of_members (by simp)
  have hop : ∀ inner, BinaryOp.decode? inner (.ofText op.name) = some op := by
    intro inner
    cases op <;> rfl
  match depth with
  | 0 => rfl
  | 1 => exact decode_within?_one (by decide) (by decide) (by decide) _
  | depth + 2 =>
      rw [if_pos (Nat.le_add_left 2 depth), Nat.add_sub_cancel]
      simp only [decodeWithin?, Document.single?_node, Option.bind_eq_bind, Option.bind_some,
        String.reduceEq, imp_self, hfields, hop]
      rfl

theorem decode_within?_function (depth : Nat) (name : String) (args : Document) :
    decodeWithin? depth
        (.node "function" (.ofMembers [("name", .ofText name), ("args", args)])) =
      if 3 ≤ depth then
        (decodeItems? (decodeWithin? (depth - 3)) args).bind fun args => some (.function name args)
      else none := by
  have hfields : (Document.ofMembers [("name", .ofText name), ("args", args)]).fields?
      ["name", "args"] = some [some (.ofText name), some args] :=
    Document.fields?_of_members (by simp)
  match depth with
  | 0 => rfl
  | 1 => exact decode_within?_one (by decide) (by decide) (by decide) _
  | 2 =>
      simp only [decodeWithin?, Document.single?_node, Option.bind_eq_bind, Option.bind_some,
        String.reduceEq, imp_self, hfields, Document.text?_of_text]
      rfl
  | depth + 3 =>
      rw [if_pos (Nat.le_add_left 3 depth), Nat.add_sub_cancel]
      simp only [decodeWithin?, Document.single?_node, Option.bind_eq_bind, Option.bind_some,
        String.reduceEq, imp_self, hfields, Document.text?_of_text, decodeArgs?]
      rfl

theorem decode_within?_lambda (depth : Nat) (body : Document) :
    decodeWithin? depth (.node "lambda" (.ofMembers [("body", body)])) =
      if 3 ≤ depth then
        (decodeItems? (decodeWithin? (depth - 3)) body).bind fun body => some (.lambda body)
      else none := by
  have hfields : (Document.ofMembers [("body", body)]).fields? ["body"] = some [some body] :=
    Document.fields?_of_members (by simp)
  match depth with
  | 0 => rfl
  | 1 => exact decode_within?_one (by decide) (by decide) (by decide) _
  | 2 =>
      simp only [decodeWithin?, Document.single?_node, Option.bind_eq_bind, Option.bind_some,
        String.reduceEq, imp_self, hfields]
      rfl
  | depth + 3 =>
      rw [if_pos (Nat.le_add_left 3 depth), Nat.add_sub_cancel]
      simp only [decodeWithin?, Document.single?_node, Option.bind_eq_bind, Option.bind_some,
        String.reduceEq, imp_self, hfields]
      rfl

/-! ## Trees -/

mutual
/-- A tree whose literals are read as they are written is read from its interchange form by a reader
that goes as deep, and by no other. -/
theorem decode_within?_encode (depth : Nat) : (expr : Expr) →
    (∀ literal, .literal literal ∈ expr.nodes → literal.IsInterchangeable) →
    decodeWithin? depth (expr.encodeWith .ofFloat) =
      if (expr.encodeWith .ofFloat).levels ≤ depth then some expr else none
  | .text content, _ => by
      rw [encodeWith, decode_within?_text, Document.levels_node]
      rfl
  | .literal value, h => by
      rw [encodeWith, decode_within?_literal, Document.levels_node, levels_encode_literal,
        decode?_encode_literal (h value (List.mem_singleton_self _))]
      rfl
  | .atom name, _ => by
      rw [encodeWith, decode_within?_atom, Document.levels_node]
      rfl
  | .capture index, _ => by
      rw [encodeWith, decode_within?_capture, Document.levels_node]
      rfl
  | .property subject key, h => by
      have hsubject := decode_within?_encode (depth - 2) subject fun literal hmem =>
        h literal (List.mem_cons_of_mem _ hmem)
      have hkey : (Document.ofText key).levels = 0 := rfl
      rw [encodeWith, decode_within?_attribute, hsubject, bind_guarded, ← ite_and,
        Document.levels_node, Document.levels_of_two]
      exact if_congr (by omega) rfl rfl
  | .access subject index, h => by
      have hsubject := decode_within?_encode (depth - 2) subject fun literal hmem =>
        h literal (List.mem_cons_of_mem _ (List.mem_append_left _ hmem))
      have hindex := decode_within?_encode (depth - 2) index fun literal hmem =>
        h literal (List.mem_cons_of_mem _ (List.mem_append_right _ hmem))
      rw [encodeWith, decode_within?_access, hsubject, bind_guarded, hindex, bind_guarded,
        ← ite_and, ← ite_and, Document.levels_node, Document.levels_of_two]
      exact if_congr (by omega) rfl rfl
  | .function name args, h => by
      have hargs := decode_items?_encode_all (depth - 3) args fun literal hmem =>
        h literal (List.mem_cons_of_mem _ hmem)
      have hname : (Document.ofText name).levels = 0 := rfl
      rw [encodeWith, decode_within?_function, hargs, bind_guarded, ← ite_and, Document.levels_node,
        Document.levels_of_two, Document.levels]
      exact if_congr (by omega) rfl rfl
  | .lambda body, h => by
      have hbody := decode_items?_encode_all (depth - 3) body fun literal hmem =>
        h literal (List.mem_cons_of_mem _ hmem)
      rw [encodeWith, decode_within?_lambda, hbody, bind_guarded, ← ite_and, Document.levels_node,
        Document.levels_of_one, Document.levels]
      exact if_congr (by omega) rfl rfl
  | .range start stop step, h => by
      have hstart := decode_within?_encode (depth - 2) start fun literal hmem =>
        h literal (List.mem_cons_of_mem _ (List.mem_append_left _ hmem))
      have hstop := decode_within?_encode (depth - 2) stop fun literal hmem =>
        h literal (List.mem_cons_of_mem _ (List.mem_append_right _ (List.mem_append_left _ hmem)))
      have hstep := decode_step?_encode_step (depth - 2) step fun literal hmem =>
        h literal (List.mem_cons_of_mem _ (List.mem_append_right _ (List.mem_append_right _ hmem)))
      rw [encodeWith, decode_within?_range, hstart, bind_guarded, hstop, bind_guarded, hstep,
        bind_guarded, ← ite_and, ← ite_and, ← ite_and, Document.levels_node,
        Document.levels_of_three]
      exact if_congr (by omega) rfl rfl
  | .list items, h => by
      have hitems := decode_items?_encode_all (depth - 2) items fun literal hmem =>
        h literal (List.mem_cons_of_mem _ hmem)
      rw [encodeWith, decode_within?_list, hitems, Option.map_if, ← ite_and, Document.levels_node,
        Document.levels]
      exact if_congr (by omega) rfl rfl
  | .binary op left right, h => by
      have hleft := decode_within?_encode (depth - 2) left fun literal hmem =>
        h literal (List.mem_cons_of_mem _ (List.mem_append_left _ hmem))
      have hright := decode_within?_encode (depth - 2) right fun literal hmem =>
        h literal (List.mem_cons_of_mem _ (List.mem_append_right _ hmem))
      have hop : (Document.ofText op.name).levels = 0 := rfl
      rw [encodeWith, decode_within?_binary, hleft, bind_guarded, hright, bind_guarded, ← ite_and,
        ← ite_and, Document.levels_node, Document.levels_of_three]
      exact if_congr (by omega) rfl rfl

/-- Trees whose literals are read as they are written are read from their interchange forms by a
reader that goes as deep, and by no other. -/
theorem decode_items?_encode_all (depth : Nat) : (exprs : List Expr) →
    (∀ literal, .literal literal ∈ nodesOfAll exprs → literal.IsInterchangeable) →
    decodeItems? (decodeWithin? depth) (.array (encodeAll .ofFloat exprs)) =
      if Json.levelsOfItems (encodeAll .ofFloat exprs) ≤ depth then some exprs else none
  | [], _ => rfl
  | expr :: exprs, h => by
      have hexpr := decode_within?_encode depth expr fun literal hmem =>
        h literal (List.mem_append_left _ hmem)
      have hexprs := decode_items?_encode_all depth exprs fun literal hmem =>
        h literal (List.mem_append_right _ hmem)
      rw [decodeItems?] at hexprs ⊢
      rw [encodeAll, List.mapM_cons, hexpr, hexprs, Json.levelsOfItems]
      change (Option.bind _ fun _ => Option.bind _ fun _ => some _) = _
      rw [bind_guarded, bind_guarded, ← ite_and]
      exact if_congr (by omega) rfl rfl

/-- The step of a range is read from its interchange form as any tree is, and a missing one always
is. -/
theorem decode_step?_encode_step (depth : Nat) : (step : Option Expr) →
    (∀ literal, .literal literal ∈ nodesOfStep step → literal.IsInterchangeable) →
    decodeStep? (decodeWithin? depth) (some (encodeStep .ofFloat step)) =
      if (encodeStep .ofFloat step).levels ≤ depth then some step else none
  | none, _ => rfl
  | some expr, h => by
      have hexpr := decode_within?_encode depth expr h
      have hnode : decodeStep? (decodeWithin? depth) (some (expr.encodeWith .ofFloat)) =
          (decodeWithin? depth (expr.encodeWith .ofFloat)).map some := by
        cases expr <;> rfl
      rw [encodeStep, hnode, hexpr, Option.map_if]
end

/-! ## Text -/

/-- An object has a text if its values have one. -/
theorem well_formed_of_members {members : List (String × Document)}
    (h : ∀ member ∈ members, member.2.WellFormed) : (Document.ofMembers members).WellFormed := by
  rw [Document.of_members_eq]
  refine .object (fun member hmember => ?_) fun member hmember => ?_
  · obtain ⟨entry, -, rfl⟩ := List.mem_map.mp hmember
    rfl
  · obtain ⟨entry, hentry, rfl⟩ := List.mem_map.mp hmember
    exact h entry hentry

/-- A node has a text if its content has one. -/
theorem well_formed_node {content : Document} (h : content.WellFormed) (kind : String) :
    (Document.node kind content).WellFormed :=
  well_formed_of_members (List.forall_mem_singleton.mpr h)

/-- The interchange form of a literal has a text. -/
theorem well_formed_encode_literal (literal : Literal) :
    (literal.encodeWith .ofFloat).WellFormed := by
  cases literal with
  | int value => exact well_formed_node (Json.well_formed_of_int _) _
  | float x => exact well_formed_node (Json.well_formed_of_float x) _
  | bool value => exact well_formed_node (.boolean value) _
  | str text => exact well_formed_node (.string text) _
  | dateTime t => exact well_formed_node (.string _) _

mutual
/-- The interchange form of a tree has a text. -/
theorem well_formed_encode : (expr : Expr) → (expr.encodeWith .ofFloat).WellFormed
  | .text content => well_formed_node (.string content) _
  | .literal value => well_formed_node (well_formed_encode_literal value) _
  | .atom name => well_formed_node (.string name) _
  | .capture index => well_formed_node (Json.well_formed_of_nat _) _
  | .property subject key => by
      have hsubject := well_formed_encode subject
      refine well_formed_node (well_formed_of_members ?_) _
      simpa using ⟨hsubject, Document.WellFormed.string key⟩
  | .access subject index => by
      have hsubject := well_formed_encode subject
      have hindex := well_formed_encode index
      refine well_formed_node (well_formed_of_members ?_) _
      simpa using ⟨hsubject, hindex⟩
  | .function name args => by
      have hargs := Document.WellFormed.array (well_formed_encode_all args)
      refine well_formed_node (well_formed_of_members ?_) _
      simpa using ⟨Document.WellFormed.string name, hargs⟩
  | .lambda body => by
      have hbody := Document.WellFormed.array (well_formed_encode_all body)
      refine well_formed_node (well_formed_of_members ?_) _
      simpa using hbody
  | .range start stop step => by
      have hstart := well_formed_encode start
      have hstop := well_formed_encode stop
      have hstep := well_formed_encode_step step
      refine well_formed_node (well_formed_of_members ?_) _
      simpa using ⟨hstart, hstop, hstep⟩
  | .list items => well_formed_node (.array (well_formed_encode_all items)) _
  | .binary op left right => by
      have hleft := well_formed_encode left
      have hright := well_formed_encode right
      refine well_formed_node (well_formed_of_members ?_) _
      simpa using ⟨Document.WellFormed.string op.name, hleft, hright⟩

/-- The interchange forms of trees have texts. -/
theorem well_formed_encode_all : (exprs : List Expr) →
    ∀ document ∈ encodeAll .ofFloat exprs, document.WellFormed
  | [] => List.forall_mem_nil _
  | expr :: exprs =>
      List.forall_mem_cons.mpr ⟨well_formed_encode expr, well_formed_encode_all exprs⟩

/-- The interchange form of a step has a text. -/
theorem well_formed_encode_step : (step : Option Expr) →
    (encodeStep .ofFloat step).WellFormed
  | none => .null
  | some expr => well_formed_encode expr
end

end Expr

/-- A template whose literals are read as they are written is read from its JSON text if its
interchange form nests no deeper than readers of JSON go, and is refused otherwise. -/
theorem Template.of_json?_print_encode {template : Template}
    (h : ∀ literal, .literal literal ∈ Expr.nodesOfAll template → literal.IsInterchangeable) :
    Template.ofJson? template.encode.print =
      if template.encode.levels ≤ Json.depthLimit then some template else none := by
  have htext : Document.parse? template.encode.print = some template.encode :=
    Json.parse?_print (.array (Expr.well_formed_encode_all template))
  have hdecode : Template.decode? template.encode =
      if Json.levelsOfItems (Expr.encodeAll .ofFloat template) ≤ Json.depthLimit - 1
        then some template else none :=
    Expr.decode_items?_encode_all (Json.depthLimit - 1) template h
  rw [Template.ofJson?, htext, Option.bind_some, hdecode, Template.encode, Document.levels,
    Json.depthLimit]
  exact if_congr (by omega) rfl rfl

end TextTemplate
