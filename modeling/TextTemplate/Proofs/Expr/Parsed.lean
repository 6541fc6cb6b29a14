import TextTemplate.Proofs.Expr.Grouping
import TextTemplate.Proofs.Expr.Joined
import TextTemplate.Proofs.Expr.Literal
import TextTemplate.Proofs.Expr.Nodes
import TextTemplate.Proofs.Grammar.Segments

/-!
# Nodes of parsed trees

What the nodes of a parsed tree are like, whatever the source: no text, names that are names, one
expression in the body of a lambda, finite doubles, and timestamps that their own text denotes. The
grammar hands this on from the parts of a phrase to the whole (`to_parsed_inherited`). A template
has text besides, as its segments (`Template.parse_settles`).
-/

namespace TextTemplate

open TextTemplate.Grammar

/-- A literal as it is parsed: finite if it is a double, and written in its own text if it is a
timestamp. -/
def Literal.IsParsed : Literal → Prop
  | .float x => x.isFinite
  | .dateTime t => t.IsWritten
  | .int _ | .bool _ | .str _ => True

namespace Expr

/-- A node as it is parsed within an expression. -/
def IsParsed : Expr → Prop
  | .text _ => False
  | .literal value => value.IsParsed
  | .atom name | .property _ name | .function name _ => isName name.toList
  | .lambda body => body.length = 1
  | _ => True

/-! ## Chains -/

/-- The operands of a chain are the nodes of its tree, besides the operators. -/
theorem nodes_of_extend {P : Expr → Prop} (hbinary : ∀ op left right, P (.binary op left right))
    {last : Expr} (hlast : ∀ node ∈ last.nodes, P node) (op : BinaryOp) {grouping : Grouping Expr}
    (h : ∀ node ∈ grouping.toExpr.nodes, P node) :
    ∀ node ∈ (grouping.extend op last).toExpr.nodes, P node := by
  have hjoin : ∀ {op : BinaryOp} {left right : Expr}, (∀ node ∈ left.nodes, P node) →
      (∀ node ∈ right.nodes, P node) → ∀ node ∈ (Expr.binary op left right).nodes, P node :=
    fun hleft hright => List.forall_mem_cons.mpr
      ⟨hbinary _ _ _, List.forall_mem_append.mpr ⟨hleft, hright⟩⟩
  induction grouping with
  | operand expr => exact hjoin h hlast
  | group outer left right _ ihright =>
      obtain ⟨-, hnodes⟩ := List.forall_mem_cons.mp h
      obtain ⟨hleft, hright⟩ := List.forall_mem_append.mp hnodes
      rw [Grouping.extend]
      split
      · exact hjoin hleft (ihright hright)
      · exact hjoin h hlast

/-- What holds of operators and of the nodes of all operands holds of the nodes of the chain. -/
theorem nodes_of_chain {P : Expr → Prop} (hbinary : ∀ op left right, P (.binary op left right))
    {first : Expr} (hfirst : ∀ node ∈ first.nodes, P node) {more : List (BinaryOp × Expr)}
    (hmore : ∀ next ∈ more, ∀ node ∈ next.2.nodes, P node) :
    ∀ node ∈ (Expr.ofChain first more).nodes, P node := by
  have hextend : ∀ grouping : Grouping Expr, (∀ node ∈ grouping.toExpr.nodes, P node) →
      ∀ node ∈ (grouping.extendAll more).toExpr.nodes, P node := by
    induction more with
    | nil => exact fun _ h => h
    | cons next more ih =>
        obtain ⟨hnext, hmore⟩ := List.forall_mem_cons.mp hmore
        intro grouping h
        rw [Grouping.extend_all_cons]
        exact ih hmore _ (nodes_of_extend hbinary hnext next.1 h)
  rw [Expr.ofChain, Grouping.of_chain_eq]
  exact hextend (.operand first) hfirst

end Expr

/-! ## Phrases -/

namespace Grammar.Phrase

/-- The nodes of the tree of the phrase are as parsed, if it has a tree. -/
def ToParsed (phrase : Phrase) : Prop :=
  ∀ expr, phrase.toExpr = .ok expr → ∀ node ∈ expr.nodes, node.IsParsed

/-- The nodes of the trees of phrases are as parsed if those of each phrase are. -/
theorem is_parsed_of_all_to_expr {phrases : List Phrase} (h : ∀ phrase ∈ phrases, phrase.ToParsed)
    {exprs : List Expr} (hexprs : allToExpr phrases = .ok exprs) :
    ∀ node ∈ Expr.nodesOfAll exprs, node.IsParsed := by
  induction phrases generalizing exprs with
  | nil =>
      obtain rfl := Except.ok.inj hexprs
      exact List.forall_mem_nil _
  | cons phrase phrases ih =>
      obtain ⟨hphrase, hphrases⟩ := List.forall_mem_cons.mp h
      obtain ⟨expr, hexpr, hexprs⟩ := ok_of_bind hexprs
      obtain ⟨more, hmore, hexprs⟩ := ok_of_bind hexprs
      obtain rfl := Except.ok.inj hexprs
      exact List.forall_mem_append.mpr ⟨hphrase expr hexpr, ih hphrases hmore⟩

/-- The nodes of the step of a range are as parsed. -/
theorem is_parsed_of_step_to_expr {phrase : Option Phrase} (h : ∀ stride ∈ phrase, stride.ToParsed)
    {step : Option Expr} (hstep : stepToExpr phrase = .ok step) :
    ∀ node ∈ Expr.nodesOfStep step, node.IsParsed := by
  cases phrase with
  | none =>
      obtain rfl := Except.ok.inj hstep
      exact List.forall_mem_nil _
  | some phrase =>
      obtain ⟨expr, hexpr, hstep⟩ := ok_of_bind hstep
      obtain rfl := Except.ok.inj hstep
      exact h phrase rfl expr hexpr

/-- The nodes of the operands behind operators are as parsed. -/
theorem is_parsed_of_chain_to_expr {more : List (BinaryOp × Phrase)}
    (h : ∀ operation ∈ more, operation.2.ToParsed) {operations : List (BinaryOp × Expr)}
    (hoperations : chainToExpr more = .ok operations) :
    ∀ next ∈ operations, ∀ node ∈ next.2.nodes, node.IsParsed := by
  induction more generalizing operations with
  | nil =>
      obtain rfl := Except.ok.inj hoperations
      exact List.forall_mem_nil _
  | cons operation more ih =>
      obtain ⟨hoperation, hmore⟩ := List.forall_mem_cons.mp h
      obtain ⟨expr, hexpr, hoperations⟩ := ok_of_bind hoperations
      obtain ⟨exprs, hexprs, hoperations⟩ := ok_of_bind hoperations
      obtain rfl := Except.ok.inj hoperations
      exact List.forall_mem_cons.mpr ⟨hoperation expr hexpr, ih hmore hexprs⟩

theorem is_name_of_list {name : List Char} (h : isName name) :
    isName (String.ofList name).toList := by
  rwa [String.toList_ofList]

/-- The nodes of the tree of a phrase are as parsed if those of its parts are. -/
theorem to_parsed_inherited {source : List Char} : Inherited source ToParsed where
  integer _ _ expr h := by
    obtain ⟨value, -, rfl⟩ := exists_of_checked h
    exact List.forall_mem_singleton.mpr trivial
  decimal _ _ expr h := by
    obtain ⟨value, hvalue, rfl⟩ := exists_of_checked h
    exact List.forall_mem_singleton.mpr (is_finite_of_float? hvalue)
  timestamp lexeme hliteral expr h := by
    obtain ⟨value, hvalue, rfl⟩ := exists_of_checked h
    obtain ⟨form, hfits, htext⟩ := hliteral.shaped
    have hform : Time.Timestamp.ofLiteral? form.chars = some value := htext ▸ hvalue
    exact List.forall_mem_singleton.mpr (Time.is_written_of_literal? hfits hform)
  boolean _ expr h := by
    obtain rfl := Except.ok.inj h
    exact List.forall_mem_singleton.mpr trivial
  string _ expr h := by
    obtain rfl := Except.ok.inj h
    exact List.forall_mem_singleton.mpr trivial
  atom _ hname expr h := by
    obtain rfl := Except.ok.inj h
    exact List.forall_mem_singleton.mpr (is_name_of_list hname)
  property _ _ hsubject hkey expr h := by
    obtain ⟨subject, hexpr, h⟩ := ok_of_bind h
    obtain rfl := Except.ok.inj h
    exact List.forall_mem_cons.mpr ⟨is_name_of_list hkey, hsubject subject hexpr⟩
  access _ _ hsubject hindex expr h := by
    obtain ⟨subject, hexpr, h⟩ := ok_of_bind h
    obtain ⟨position, hposition, h⟩ := ok_of_bind h
    obtain rfl := Except.ok.inj h
    exact List.forall_mem_cons.mpr ⟨trivial, List.forall_mem_append.mpr
      ⟨hsubject subject hexpr, hindex position hposition⟩⟩
  call _ _ hname hargs expr h := by
    obtain ⟨exprs, hexprs, h⟩ := ok_of_bind h
    obtain rfl := Except.ok.inj h
    exact List.forall_mem_cons.mpr
      ⟨is_name_of_list hname, is_parsed_of_all_to_expr hargs hexprs⟩
  lambda _ hbody expr h := by
    obtain ⟨body, hexpr, h⟩ := ok_of_bind h
    obtain rfl := Except.ok.inj h
    refine List.forall_mem_cons.mpr ⟨rfl, ?_⟩
    exact List.forall_mem_append.mpr ⟨hbody body hexpr, List.forall_mem_nil _⟩
  capture _ _ expr h := by
    obtain ⟨value, -, rfl⟩ := exists_of_checked h
    exact List.forall_mem_singleton.mpr trivial
  range _ _ _ hstart hstop hstep expr h := by
    obtain ⟨first, hfirst, h⟩ := ok_of_bind h
    obtain ⟨last, hlast, h⟩ := ok_of_bind h
    obtain ⟨stride, hstride, h⟩ := ok_of_bind h
    obtain rfl := Except.ok.inj h
    exact List.forall_mem_cons.mpr ⟨trivial, List.forall_mem_append.mpr
      ⟨hstart first hfirst, List.forall_mem_append.mpr
        ⟨hstop last hlast, is_parsed_of_step_to_expr hstep hstride⟩⟩⟩
  list _ hitems expr h := by
    obtain ⟨exprs, hexprs, h⟩ := ok_of_bind h
    obtain rfl := Except.ok.inj h
    exact List.forall_mem_cons.mpr ⟨trivial, is_parsed_of_all_to_expr hitems hexprs⟩
  chain _ _ hfirst hmore expr h := by
    obtain ⟨first, hexpr, h⟩ := ok_of_bind h
    obtain ⟨operations, hoperations, h⟩ := ok_of_bind h
    obtain rfl := Except.ok.inj h
    exact Expr.nodes_of_chain (fun _ _ _ => trivial) (hfirst first hexpr)
      (is_parsed_of_chain_to_expr hmore hoperations)

end Grammar.Phrase

/-! ## Templates -/

namespace Expr

/-- A segment of a template as it is parsed: text, or a tree whose nodes are all as parsed. -/
def IsParsedSegment (expr : Expr) : Prop :=
  expr.isText ∨ ∀ node ∈ expr.nodes, node.IsParsed

end Expr

namespace Grammar

/-- The tree of a segment is as parsed, and no empty text. -/
theorem is_parsed_of_segment {segment : Segment} (hsegment : segment.Holds Phrase.ToParsed)
    {expr : Expr} (h : segment.toExpr = .ok expr) : expr.IsParsedSegment ∧ expr ≠ .text "" := by
  cases segment with
  | text chars =>
      obtain rfl := Except.ok.inj h
      refine ⟨.inl rfl, fun heq => hsegment ?_⟩
      exact String.ofList_injective (Expr.text.inj heq)
  | expression phrase =>
      have hnodes := hsegment expr h
      refine ⟨.inr hnodes, ?_⟩
      rintro rfl
      exact hnodes _ (Expr.mem_nodes_self _)

/-- The trees of segments are as parsed, and no empty text. -/
theorem is_parsed_of_segments {segments : List Segment}
    (hsegments : ∀ segment ∈ segments, segment.Holds Phrase.ToParsed) {exprs : List Expr}
    (h : Segment.allToExpr segments = .ok exprs) :
    ∀ expr ∈ exprs, expr.IsParsedSegment ∧ expr ≠ .text "" := by
  induction segments generalizing exprs with
  | nil =>
      obtain rfl := Except.ok.inj h
      exact List.forall_mem_nil _
  | cons segment segments ih =>
      obtain ⟨hsegment, hsegments⟩ := List.forall_mem_cons.mp hsegments
      obtain ⟨expr, hexpr, h⟩ := ok_of_bind h
      obtain ⟨more, hmore, h⟩ := ok_of_bind h
      obtain rfl := Except.ok.inj h
      exact List.forall_mem_cons.mpr ⟨is_parsed_of_segment hsegment hexpr, ih hsegments hmore⟩

end Grammar

namespace Template

/-- A template as it is parsed: nothing is left to join, and each segment is as parsed. -/
structure IsParsed (template : Template) : Prop where
  joined : template.IsJoined
  segments : ∀ segment ∈ template, segment.IsParsedSegment

/-- Joining text makes no other segments. -/
theorem is_parsed_of_join {exprs : List Expr} (h : ∀ expr ∈ exprs, expr.IsParsedSegment) :
    ∀ segment ∈ join exprs, segment.IsParsedSegment := by
  induction exprs with
  | nil => exact List.forall_mem_nil _
  | cons expr exprs ih =>
      obtain ⟨hexpr, hexprs⟩ := List.forall_mem_cons.mp h
      have hrest := ih hexprs
      change ∀ segment ∈ Template.cons expr (join exprs), segment.IsParsedSegment
      rw [Template.cons.eq_def]
      split
      · next first second rest heq =>
          rw [heq] at hrest
          exact List.forall_mem_cons.mpr ⟨.inl rfl, (List.forall_mem_cons.mp hrest).2⟩
      · exact List.forall_mem_cons.mpr ⟨hexpr, hrest⟩

/-- A source is parsed to a template as parsed, or refused. -/
theorem parse_settles (source : String) : Settles Template.IsParsed (Template.parse source) := by
  have hrun : Settles (fun segments => ∀ segment ∈ segments, segment.Holds Phrase.ToParsed)
      (wholeTemplate.run source) := .of_reads? fun _ _ hreads =>
    (whole_template_stays Phrase.to_parsed_inherited).of_reads? (List.suffix_refl _) hreads
  rw [Template.parse_eq]
  refine hrun.bind fun segments hsegments => ?_
  rw [read_all_eq]
  refine (Settles.of_tree fun exprs hexprs => is_parsed_of_segments hsegments hexprs).bind
    fun exprs hexprs => .ok ⟨join_is_joined fun hmem => (hexprs _ hmem).2 rfl, ?_⟩
  exact is_parsed_of_join fun expr hexpr => (hexprs expr hexpr).1

/-- The literals of a parsed template are as parsed. -/
theorem is_parsed_literal_of_parse {source : String} {template : Template}
    (h : Template.parse source = .ok template) {literal : Literal}
    (hliteral : .literal literal ∈ Expr.nodesOfAll template) : literal.IsParsed := by
  have hsettles := parse_settles source
  rw [h] at hsettles
  obtain ⟨segment, hsegment, hnode⟩ := Expr.exists_of_mem_nodes_of_all hliteral
  rcases hsettles.of_ok.segments segment hsegment with htext | hparsed
  · obtain ⟨text, rfl⟩ := Expr.is_text_iff.mp htext
    exact absurd (List.mem_singleton.mp hnode) nofun
  · exact hparsed _ hnode

end Template

/-- A source is parsed to an expression as parsed, or refused. -/
theorem Expr.parse_settles (source : String) :
    Settles (fun expr : Expr => ∀ node ∈ expr.nodes, node.IsParsed) (Expr.parse source) := by
  have hrun : Settles Phrase.ToParsed (wholeExpression.run source) :=
    .of_reads? fun _ _ hreads =>
      (whole_expression_stays Phrase.to_parsed_inherited).of_reads? (List.suffix_refl _) hreads
  rw [Expr.parse_eq]
  refine hrun.bind fun phrase hphrase => ?_
  rw [read_eq]
  exact .of_tree hphrase

/-- Every source is either parsed to something as parsed or refused: as a template, as an expression
and as a literal. The builder of trees is never at a loss. -/
theorem parse_well_formed_or_refused (source : String) :
    Settles Template.IsParsed (Template.parse source) ∧
      Settles (fun expr : Expr => ∀ node ∈ expr.nodes, node.IsParsed) (Expr.parse source) ∧
      Settles Literal.IsScalar (Literal.parse source) :=
  ⟨Template.parse_settles source, Expr.parse_settles source, Literal.parse_settles source⟩

end TextTemplate
