import TextTemplate.Engine.Basic
import TextTemplate.Proofs.Expr.Blocks
import TextTemplate.Proofs.Expr.Interchange
import TextTemplate.Proofs.Expr.Parsed

/-!
# Storing templates

A parsed template that is written as JSON is read back as long as its interchange form nests no
deeper than readers of JSON go (`Template.of_json_print_of_parse`), and so is a template that no
source has (`Template.of_json_print_of_finite`). Parsing knows no such limit: lists within lists are
parsed at any depth, but more than sixty-three of them are not read back
(`Template.nested_lists_read_back_iff`).
-/

namespace TextTemplate

open TextTemplate.Grammar
open Json (Document)

/-- A double is read as the number that it is written as. -/
def IsReadAsWritten (x : Float) : Prop :=
  ∃ numeral, Document.ofFloat x = .number numeral ∧ numeral.float? = some x

/-- The literals of a parsed template are read as they are written if its doubles are. -/
theorem is_interchangeable_of_parse {source : String} {template : Template}
    (hparse : Template.parse source = .ok template)
    (hfloats : ∀ x, .literal (.float x) ∈ Expr.nodesOfAll template → IsReadAsWritten x)
    {literal : Literal} (h : .literal literal ∈ Expr.nodesOfAll template) :
    literal.IsInterchangeable := by
  have hparsed := Template.is_parsed_literal_of_parse hparse h
  cases literal with
  | float x => exact hfloats x h
  | dateTime t => exact Time.of_interchange?_digits hparsed
  | _ => exact trivial

/-- A parsed template whose doubles are read as they are written is read back from its JSON text,
and loaded by every engine, exactly if its interchange form nests no deeper than readers of JSON
go. -/
theorem Template.of_json_print_of_parse {source : String} {template : Template}
    (hparse : Template.parse source = .ok template)
    (hfloats : ∀ x, .literal (.float x) ∈ Expr.nodesOfAll template → IsReadAsWritten x) :
    (Template.ofJson? template.encode.print =
      if template.encode.levels ≤ Json.depthLimit then some template else none) ∧
    ∀ engine : Engine, engine.loadJson template.encode.print =
      if template.encode.levels ≤ Json.depthLimit
        then .ok (engine.compiled template.encode.print template) else .error .malformedTree := by
  have hread := Template.of_json?_print_encode fun _ => is_interchangeable_of_parse hparse hfloats
  refine ⟨hread, fun engine => ?_⟩
  rw [Engine.loadJson, hread]
  by_cases hlevels : template.encode.levels ≤ Json.depthLimit
  · rw [if_pos hlevels, if_pos hlevels]
  · rw [if_neg hlevels, if_neg hlevels]

/-! ## Nested lists -/

/-- An empty list within as many lists as `count` says. -/
def nestedList : Nat → Expr
  | 0 => .list []
  | count + 1 => .list [nestedList count]

/-- A template whose only segment is an empty list within lists. -/
def nestedListSource (count : Nat) : String :=
  String.ofList ('@' :: enclosed [] '(' (surface [] (nestedList count)) ')')

example : nestedListSource 2 = "@([[[]]])" := by
  decide

theorem writable_nested_list (count : Nat) : Writable (nestedList count) := by
  induction count with
  | zero => exact .list (List.forall_mem_nil _)
  | succ count ih => exact .list (List.forall_mem_singleton.mpr ih)

/-- Lists within lists are parsed at any depth. -/
theorem parse_nested_list_source (count : Nat) :
    Template.parse (nestedListSource count) = .ok [nestedList count] :=
  Template.parse_block_surface (List.forall_mem_nil _) (writable_nested_list count)

/-- Lists within lists are nothing but lists. -/
theorem is_list_of_mem_nodes {count : Nat} :
    ∀ node ∈ (nestedList count).nodes, ∃ items, node = .list items := by
  induction count with
  | zero => exact List.forall_mem_singleton.mpr ⟨_, rfl⟩
  | succ count ih =>
      exact List.forall_mem_cons.mpr
        ⟨⟨_, rfl⟩, List.forall_mem_append.mpr ⟨ih, List.forall_mem_nil _⟩⟩

/-- There is no literal within lists of lists. -/
theorem literal_not_mem_nested_list (count : Nat) (literal : Literal) :
    .literal literal ∉ Expr.nodesOfAll [nestedList count] := by
  intro h
  rw [Expr.nodesOfAll, Expr.nodesOfAll, List.append_nil] at h
  obtain ⟨items, heq⟩ := is_list_of_mem_nodes _ h
  cases heq

/-- Every list takes two levels. -/
theorem levels_nested_list (count : Nat) :
    ((nestedList count).encodeWith .ofFloat).levels = 2 * count + 2 := by
  induction count with
  | zero => rfl
  | succ count ih =>
      rw [nestedList, Expr.encodeWith, Document.levels_node, Document.levels, Expr.encodeAll,
        Json.levelsOfItems, ih, Expr.encodeAll, Json.levelsOfItems]
      omega

/-- A template with an empty list within lists takes one level besides. -/
theorem levels_nested_list_template (count : Nat) :
    (Template.encode [nestedList count]).levels = 2 * count + 3 := by
  rw [Template.encode, Document.levels, Expr.encodeAll, Json.levelsOfItems, levels_nested_list,
    Expr.encodeAll, Json.levelsOfItems]
  omega

/-- Lists within lists are parsed at any depth, but they are read back from JSON only up to
sixty-three lists in all. -/
theorem Template.nested_lists_read_back_iff (count : Nat) :
    Template.parse (nestedListSource count) = .ok [nestedList count] ∧
      (Template.ofJson? (Template.encode [nestedList count]).print = some [nestedList count] ↔
        count + 1 ≤ 63) := by
  refine ⟨parse_nested_list_source count, ?_⟩
  have hread := Template.of_json?_print_encode fun literal h =>
    absurd h (literal_not_mem_nested_list count literal)
  rw [hread, levels_nested_list_template, Json.depthLimit]
  split
  · exact iff_of_true rfl (by omega)
  · exact iff_of_false (fun h => by cases h) (by omega)

/-- Sixty-three lists within one another are stored and loaded, sixty-four are lost. -/
theorem of_json_print_of_nested_lists :
    Template.ofJson? (Template.encode [nestedList 62]).print = some [nestedList 62] ∧
      Template.ofJson? (Template.encode [nestedList 63]).print = none := by
  have hread (count : Nat) := (Template.of_json_print_of_parse (parse_nested_list_source count)
    fun x h => absurd h (literal_not_mem_nested_list count (.float x))).1
  simp only [levels_nested_list_template] at hread
  exact ⟨hread 62, hread 63⟩

/-! ## Templates that no source has -/

/-- Any template is read back from its JSON text and loaded by every engine, be it parsed or not, if
its interchange form nests no deeper than readers of JSON go: decoding undoes encoding for every
kind of node within every other. Of doubles, which have to be finite, and of timestamps it is asked
that they are read as they are written. -/
theorem Template.of_json_print_of_finite {template : Template}
    (hfinite : ∀ x, .literal (.float x) ∈ Expr.nodesOfAll template → x.isFinite)
    (hfloats : ∀ x, .literal (.float x) ∈ Expr.nodesOfAll template → x.isFinite →
      IsReadAsWritten x)
    (htimes : ∀ t, .literal (.dateTime t) ∈ Expr.nodesOfAll template →
      Time.Timestamp.ofInterchange? t.interchangeText.toList = some t)
    (hlevels : template.encode.levels ≤ Json.depthLimit) :
    Template.ofJson? template.encode.print = some template ∧
      ∀ engine : Engine, engine.loadJson template.encode.print =
        .ok (engine.compiled template.encode.print template) := by
  have hliterals : ∀ literal, .literal literal ∈ Expr.nodesOfAll template →
      literal.IsInterchangeable := by
    intro literal hmem
    cases literal with
    | float x => exact hfloats x hmem (hfinite x hmem)
    | dateTime t =>
        have htime := htimes t hmem
        rwa [Time.Timestamp.interchangeText, String.toList_ofList] at htime
    | _ => exact trivial
  have hread : Template.ofJson? template.encode.print = some template := by
    rw [Template.of_json?_print_encode hliterals, if_pos hlevels]
  refine ⟨hread, fun engine => ?_⟩
  rw [Engine.loadJson, hread]

/-- A template whose trees no source has: text within expressions, a function without a name,
lambdas without a body and with two trees in it, and captures that no lambda has. -/
def oddTemplate : Template :=
  [.text "@", .text "", .function "" [.text "\x22\\\n", .literal (.str "Σ")],
    .lambda [], .lambda [.capture 0, .lambda [.capture 18446744073709551615]],
    .range (.text "") (.list []) none,
    .range (.literal (.bool true)) (.atom "") (some (.literal (.dateTime ⟨-1, 5, 3600⟩))),
    .property (.access (.literal (.float 1.5)) (.range (.atom "a b") (.atom "1") none)) "",
    .binary .ne (.binary .pow (.lambda []) (.literal (.int (-9223372036854775808))))
      (.list [.list [], .text ""])]

/-- The odd template is stored and loaded. -/
theorem of_json_print_of_odd_template :
    Template.ofJson? oddTemplate.encode.print = some oddTemplate := by
  have hfloat : ∀ x, .literal (.float x) ∈ Expr.nodesOfAll oddTemplate → x = 1.5 := by
    intro x hx
    simpa [oddTemplate, Expr.nodesOfAll, Expr.nodes, Expr.nodesOfStep] using hx
  have htime : ∀ t, .literal (.dateTime t) ∈ Expr.nodesOfAll oddTemplate → t = ⟨-1, 5, 3600⟩ := by
    intro t ht
    simpa [oddTemplate, Expr.nodesOfAll, Expr.nodes, Expr.nodesOfStep] using ht
  have hread : IsReadAsWritten 1.5 := by
    refine ⟨⟨false, ['1'], ['5'], none⟩, ?_, by decide +kernel⟩
    rfl
  refine (Template.of_json_print_of_finite ?_ ?_ ?_ (by decide +kernel)).1
  · exact fun x hx => hfloat x hx ▸ (by decide +kernel)
  · exact fun x hx _ => hfloat x hx ▸ hread
  · exact fun t ht => htime t ht ▸ (by decide +kernel)

end TextTemplate
