import TextTemplate.Proofs.Expr.Grouping
import TextTemplate.Proofs.Grammar.Operands

/-!
# Parsing chains of variables

Variables with operators between them are parsed to the one well-grouped tree of these variables
and operators, however many there are and however the operators are written.
-/

namespace TextTemplate

open TextTemplate.Grammar TextTemplate.Grammar.Parser

/-- A name that can be written for a variable. -/
abbrev Variable :=
  { name : String // IsVariable name }

/-- An operator, as it is written, with the variable behind it. -/
structure Link where
  op : BinaryOp
  spelling : List Char
  isSpelling : spelling ∈ op.spellings
  right : Variable

/-- The operator with the tree of the variable. -/
def Link.operation (link : Link) : BinaryOp × Expr :=
  (link.op, .atom link.right)

/-- The text of links, with a space before each operator and each variable. -/
def linksText : List Link → List Char
  | [] => []
  | link :: links =>
    ' ' :: (link.spelling ++ ' ' :: (link.right.val.toList ++ linksText links))

/-- The text of a chain. -/
def chainText (first : Variable) (links : List Link) : String :=
  String.ofList (first.val.toList ++ linksText links)

variable {inner : Parser Phrase}

/-- Links begin with a space, if there are any. -/
theorem links_text_stops {p : Char → Bool} (hp : p ' ' = false) (links : List Link) :
    Stops p (linksText links) := by
  cases links with
  | nil => exact .nil p
  | cons link links => exact .cons hp _

/-- Behind the first space of a link stands its operator. -/
theorem drop_blanks_links_text (link : Link) (links : List Link) :
    (linksText (link :: links)).dropWhile isBlank =
      link.spelling ++ ' ' :: (link.right.val.toList ++ linksText links) := by
  have hblank : Stops isBlank
      (link.spelling ++ ' ' :: (link.right.val.toList ++ linksText links)) :=
    .of_spelling link.isSpelling rfl _
  rw [linksText, List.dropWhile_cons_of_pos rfl, hblank.drop_while]

/-- A property that no operator begins with stops behind the space of a link. -/
theorem stops_drop_blanks_links_text {p : Char → Bool} (hp : operatorChars.all (!p ·))
    (links : List Link) : Stops p ((linksText links).dropWhile isBlank) := by
  cases links with
  | nil => exact .nil p
  | cons link links =>
      rw [drop_blanks_links_text]
      exact .of_spelling link.isSpelling hp _

/-- A variable before links is an operand. -/
theorem yields_operand_variable (name : Variable) (links : List Link) :
    (operand inner).Yields (name.val.toList ++ linksText links) (.atom name)
      ((linksText links).dropWhile isBlank) := by
  have hdots : NoDots (linksText links) :=
    no_dots_of_stops rfl (stops_drop_blanks_links_text rfl links)
  have hatom : (primary inner).reads? (name.val.toList ++ linksText links) =
      some (.atom name.val.toList, linksText links) :=
    reads?_primary_atom name.property.isName name.property.isNoTruthWord
      (links_text_stops rfl links) (links_text_stops rfl links) hdots
  have hexpr : (Phrase.atom name.val.toList).toExpr = .ok (.atom name) := by
    rw [Phrase.toExpr, String.ofList_toList]
  exact yields_operand ⟨_, hatom, hexpr⟩ rfl (stops_drop_blanks_links_text rfl links)

/-- Links are read as operations, one by one. -/
theorem reads_many_links (links : List Link) :
    ∃ phrases, ReadsMany (andThen blanks fun _ => operation inner)
        ((linksText links).dropWhile isBlank) phrases [] ∧
      Phrase.chainToExpr phrases = .ok (links.map Link.operation) := by
  induction links with
  | nil => exact ⟨[], .blanks_stop rfl (reads?_operation_eq_none (.nil _)), rfl⟩
  | cons link links ih =>
      obtain ⟨phrases, hmany, hphrases⟩ := ih
      obtain ⟨right, hreads, hright⟩ : (operand inner).Yields _ _ _ :=
        yields_operand_variable link.right links
      have hvariable : Stops isBlank (link.right.val.toList ++ linksText links) :=
        .of_name link.right.property.isName (fun _ => is_blank_eq_false rfl) _
      have hmore : (' ' :: (link.right.val.toList ++ linksText links)).dropWhile isBlank =
          link.right.val.toList ++ linksText links := by
        rw [List.dropWhile_cons_of_pos rfl, hvariable.drop_while]
      have hread := reads?_operation link.isSpelling (.cons rfl _) hmore hreads
      have hblank : Stops isBlank
          (link.spelling ++ ' ' :: (link.right.val.toList ++ linksText links)) :=
        .of_spelling link.isSpelling rfl _
      -- Reading goes on only as long as something is taken.
      have hless : ((linksText links).dropWhile isBlank).length <
          (link.spelling ++ ' ' :: (link.right.val.toList ++ linksText links)).length := by
        have hdrop := ((linksText links).dropWhile_sublist isBlank).length_le
        simp only [List.length_append, List.length_cons]
        omega
      refine ⟨(link.op, right) :: phrases, ?_, ?_⟩
      · rw [drop_blanks_links_text]
        exact .blanks_step hblank.drop_while hread hless hmany
      · rw [Phrase.chainToExpr, hright, hphrases]
        rfl

/-- A chain of variables is parsed to the tree of its operands and operators. -/
theorem parse_chain_text (first : Variable) (links : List Link) :
    Expr.parse (chainText first links) =
      .ok (.ofChain (.atom first) (links.map Link.operation)) := by
  have hblank : Stops isBlank (first.val.toList ++ linksText links) :=
    .of_name first.property.isName (fun _ => is_blank_eq_false rfl) _
  refine parse_eq_ok hblank.drop_while ?_
  let inner := expressionWithin (byteCount (first.val.toList ++ linksText links))
  obtain ⟨phrase, hreads, hphrase⟩ : (operand inner).Yields _ _ _ :=
    yields_operand_variable first links
  obtain ⟨phrases, hmany, hphrases⟩ :
      ∃ phrases, ReadsMany (andThen blanks fun _ => operation inner) _ phrases [] ∧ _ :=
    reads_many_links links
  have hdropped : ((linksText links).dropWhile isBlank).dropWhile isBlank =
      (linksText links).dropWhile isBlank :=
    (stops_drop_blanks_links_text rfl links).drop_while
  have hspaced := reads?_many_spaced hmany hdropped
  have hexpression : (expressionOver inner).reads? (first.val.toList ++ linksText links) =
      some (.chain phrase phrases, []) := by
    simp [expressionOver, hreads, hdropped, hspaced]
  refine ⟨.chain phrase phrases, hexpression, ?_⟩
  rw [Phrase.toExpr, hphrase, hphrases]
  rfl

/-- Precedence and associativity: a chain of variables is parsed to a tree with these variables and
operators in this order, at every operator of which the operators at the roots of the operands bind
more tightly, or as tightly on the side from which the level groups; and no other tree is such. -/
theorem parse_chain_groups (first : Variable) (links : List Link) :
    ∃ tree, Expr.parse (chainText first links) = .ok tree ∧
      tree.Groups (.atom first) (links.map Link.operation) ∧
      ∀ other : Expr, other.Groups (.atom first) (links.map Link.operation) → other = tree := by
  have hgroups : ∀ {tree : Expr}, tree.Groups (.atom first) (links.map Link.operation) ↔
      tree = .ofChain (.atom first) (links.map Link.operation) := by
    intro tree
    refine Expr.groups_iff rfl fun next hnext => ?_
    obtain ⟨link, -, rfl⟩ := List.mem_map.mp hnext
    rfl
  exact ⟨_, parse_chain_text first links, hgroups.mpr rfl, fun other => hgroups.mp⟩

example : chainText ⟨"a", by decide, by decide⟩
    [⟨.ne, ['<', '>'], by decide, "b", by decide, by decide⟩,
      ⟨.pow, ['^'], by decide, "c", by decide, by decide⟩] = "a <> b ^ c" := by
  decide

end TextTemplate
