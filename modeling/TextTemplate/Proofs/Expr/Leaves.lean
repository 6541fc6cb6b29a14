import TextTemplate.Expr.Interchange
import TextTemplate.Proofs.Json.Numbers

/-!
# Leaves and their interchange form

What the reader makes of the nodes that contain no trees: texts, atoms, captures and literals. A
literal is read as it is written if it is a double or a timestamp whose text is read as it, and
always if it is of another kind: `Literal.IsInterchangeable`.
-/

namespace TextTemplate

open Json (Document)

/-! ## Literals -/

/-- A double or a timestamp is read as it is written; the other literals always are. -/
def Literal.IsInterchangeable : Literal → Prop
  | .float x => ∃ numeral, Document.ofFloat x = .number numeral ∧ numeral.float? = some x
  | .dateTime t => Time.Timestamp.ofInterchange? (t.digits .letter) = some t
  | .int _ | .bool _ | .str _ => True

/-- The only member of a node is its content. -/
theorem Json.Document.single?_node (kind : String) (content : Document) :
    (Document.node kind content).single? = some (kind, content) :=
  rfl

/-- The text of a text is the text. -/
theorem Json.Document.text?_of_text (text : String) : (Document.ofText text).text? = some text :=
  rfl

/-- A literal is read from its interchange form. -/
theorem decode?_encode_literal {literal : Literal} (h : literal.IsInterchangeable) :
    Literal.decode? (literal.encodeWith .ofFloat) = some literal := by
  cases literal with
  | int value =>
      simp [Literal.encodeWith, Literal.decode?, Document.single?_node, Document.ofInt,
        Document.numeral?, Json.int64?_of_int]
  | float x =>
      obtain ⟨numeral, htext, hvalue⟩ := h
      simp [Literal.encodeWith, Literal.decode?, Document.single?_node, htext, Document.numeral?,
        hvalue]
  | bool value => rfl
  | str text => rfl
  | dateTime t =>
      simp [Literal.encodeWith, Literal.decode?, Document.single?_node, Document.text?_of_text,
        Time.Timestamp.interchangeText, String.toList_ofList,
        show Time.Timestamp.ofInterchange? (t.digits .letter) = some t from h]

/-! ## Nodes without trees -/

namespace Expr

/-- A reader of one level reads only nodes that contain no others. -/
theorem decode_within?_one {kind : String} (htext : kind ≠ "text") (hatom : kind ≠ "atom")
    (hcapture : kind ≠ "capture") (content : Document) :
    decodeWithin? 1 (.node kind content) = none := by
  simp only [decodeWithin?, Document.single?_node, Option.bind_eq_bind, Option.bind_some]

theorem decode_within?_text (depth : Nat) (content : Document) :
    decodeWithin? depth (.node "text" content) =
      if 1 ≤ depth then content.text?.map .text else none := by
  cases depth with
  | zero => rfl
  | succ depth =>
      rw [if_pos (Nat.le_add_left 1 depth)]
      simp only [decodeWithin?, Document.single?_node, Option.bind_eq_bind, Option.bind_some]

theorem decode_within?_atom (depth : Nat) (content : Document) :
    decodeWithin? depth (.node "atom" content) =
      if 1 ≤ depth then content.text?.map .atom else none := by
  cases depth with
  | zero => rfl
  | succ depth =>
      rw [if_pos (Nat.le_add_left 1 depth)]
      simp only [decodeWithin?, Document.single?_node, Option.bind_eq_bind, Option.bind_some]

theorem decode_within?_capture (depth : Nat) (index : UInt64) :
    decodeWithin? depth (.node "capture" (.ofNat index.toNat)) =
      if 1 ≤ depth then some (.capture index) else none := by
  cases depth with
  | zero => rfl
  | succ depth =>
      rw [if_pos (Nat.le_add_left 1 depth)]
      simp only [decodeWithin?, Document.single?_node, Option.bind_eq_bind, Option.bind_some,
        Document.ofNat, Document.numeral?, Json.uint64?_of_nat, Option.map_some]

theorem decode_within?_literal (depth : Nat) (content : Document) :
    decodeWithin? depth (.node "literal" content) =
      if 2 ≤ depth then (Literal.decode? content).map .literal else none := by
  match depth with
  | 0 => rfl
  | 1 => exact decode_within?_one (by decide) (by decide) (by decide) _
  | depth + 2 =>
      rw [if_pos (Nat.le_add_left 2 depth)]
      simp only [decodeWithin?, Document.single?_node, Option.bind_eq_bind, Option.bind_some,
        String.reduceEq, imp_self]

end Expr

end TextTemplate
