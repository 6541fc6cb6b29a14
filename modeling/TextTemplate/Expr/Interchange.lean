import TextTemplate.Expr.Basic
import TextTemplate.Json.Basic
import TextTemplate.Json.Float
import TextTemplate.Json.Parser
import TextTemplate.Json.Printer
import TextTemplate.Time.Reader

/-!
# Trees as JSON

The interchange form of trees: each node is an object whose only key names the kind of node.
`Expr.encode` writes it and `Expr.decode?` reads it. Nodes with named fields may also be written as
an array of the fields in their order. What a reader has no use for is ignored, but no field may
occur twice, and arrays and objects that are read may not be nested beyond `Json.depthLimit`.
-/

namespace TextTemplate

open Json (Document)

/-- The name of an operator in trees. -/
def BinaryOp.name : BinaryOp → String
  | add => "add"
  | sub => "sub"
  | mul => "mul"
  | div => "div"
  | pow => "pow"
  | concat => "concat"
  | eq => "eq"
  | ne => "neq"
  | gt => "gt"
  | ge => "ge"
  | lt => "lt"
  | le => "le"

/-- The operator of a name. -/
def BinaryOp.ofName? (name : String) : Option BinaryOp :=
  BinaryOp.all.find? (·.name == name)

/-- A node: an object with one key. -/
def Json.Document.node (kind : String) (content : Document) : Document :=
  .ofMembers [(kind, content)]

namespace Literal

/-- The interchange form of a literal, with doubles written by `float`. -/
def encodeWith (float : Float → Document) : Literal → Document
  | .int value => .node "int" (.ofInt value.toInt)
  | .float value => .node "float" (float value)
  | .bool value => .node "bool" (.boolean value)
  | .str text => .node "str" (.ofText text)
  | .dateTime value => .node "date_time" (.ofText value.interchangeText)

end Literal

namespace Expr

mutual
/-- The interchange form of a tree, with doubles written by `float`. -/
def encodeWith (float : Float → Document) : Expr → Document
  | .text content => .node "text" (.ofText content)
  | .literal value => .node "literal" (value.encodeWith float)
  | .atom name => .node "atom" (.ofText name)
  | .property subject key =>
    .node "attribute" (.ofMembers [("subject", encodeWith float subject), ("key", .ofText key)])
  | .access subject index =>
    .node "access"
      (.ofMembers [("subject", encodeWith float subject), ("index", encodeWith float index)])
  | .function name args =>
    .node "function" (.ofMembers [("name", .ofText name), ("args", .array (encodeAll float args))])
  | .lambda body => .node "lambda" (.ofMembers [("body", .array (encodeAll float body))])
  | .capture index => .node "capture" (.ofNat index.toNat)
  | .range start stop step =>
    .node "range" (.ofMembers
      [("start", encodeWith float start), ("end", encodeWith float stop),
        ("step", encodeStep float step)])
  | .list items => .node "list" (.array (encodeAll float items))
  | .binary op left right =>
    .node "binary" (.ofMembers
      [("op", .ofText op.name), ("left", encodeWith float left),
        ("right", encodeWith float right)])

/-- The interchange forms of trees. -/
def encodeAll (float : Float → Document) : List Expr → List Document
  | [] => []
  | expr :: exprs => encodeWith float expr :: encodeAll float exprs

/-- The interchange form of the step of a range; a missing one is null. -/
def encodeStep (float : Float → Document) : Option Expr → Document
  | none => .null
  | some step => encodeWith float step
end

/-- The interchange form of a tree. -/
def encode (expr : Expr) : Document :=
  expr.encodeWith .ofFloat

end Expr

/-- The interchange form of a template. -/
def Template.encode (template : Template) : Document :=
  .array (Expr.encodeAll .ofFloat template)

namespace Json.Document

/-- The text of a string. -/
def text? : Document → Option String
  | .string text => text
  | _ => none

/-- The truth value of a document. -/
def bool? : Document → Option Bool
  | .boolean value => some value
  | _ => none

/-- The number of a document. -/
def numeral? : Document → Option Numeral
  | .number numeral => some numeral
  | _ => none

/-- The only member of an object. -/
def single? : Document → Option (String × Document)
  | .object [(some key, content)] => some (key, content)
  | _ => none

/-- The values of the field, in the order in which they are written. -/
def valuesOf (name : String) (members : List (Option String × Document)) : List Document :=
  (members.filter fun (key, _) => key == some name).map (·.2)

/-- The value of each of the fields, if it is given. A field may be given once, and a key must be
a text. -/
def fieldsOfMembers? (members : List (Option String × Document)) :
    List String → Option (List (Option Document))
  | [] => some []
  | name :: names =>
    match valuesOf name members with
    | [] => (fieldsOfMembers? members names).map (none :: ·)
    | [value] => (fieldsOfMembers? members names).map (some value :: ·)
    | _ => none

/-- The value of each of the fields, if it is given, from an object or from an array of the fields
in their order. -/
def fields? (names : List String) : Document → Option (List (Option Document))
  | .object members =>
    if members.any fun (key, _) => key.isNone then none else fieldsOfMembers? members names
  | .array items =>
    if items.length ≤ names.length then
      some (items.map some ++ List.replicate (names.length - items.length) none)
    else none
  | _ => none

end Json.Document

/-- Reads a literal. -/
def Literal.decode? (document : Document) : Option Literal := do
  let (kind, content) ← document.single?
  match kind with
  | "int" => (← content.numeral?).int64?.map .int
  | "float" => (← content.numeral?).float?.map .float
  | "bool" => content.bool?.map .bool
  | "str" => content.text?.map .str
  | "date_time" => (Time.Timestamp.ofInterchange? (← content.text?).toList).map .dateTime
  | _ => none

/-- Reads an operator: its name, or a node of that kind with nothing in it. -/
def BinaryOp.decode? (depth : Nat) : Document → Option BinaryOp
  | .string name => name.bind BinaryOp.ofName?
  | .object [(some name, .null)] => if depth = 0 then none else BinaryOp.ofName? name
  | _ => none

namespace Expr

/-- Reads the items of an array, each with `read`. -/
def decodeItems? (read : Document → Option Expr) : Document → Option (List Expr)
  | .array items => items.mapM read
  | _ => none

/-- Reads the arguments of a function, of which there are none unless they are given. -/
def decodeArgs? (read : Document → Option Expr) : Option Document → Option (List Expr)
  | none => some []
  | some document => decodeItems? read document

/-- Reads the step of a range, which may be missing or null. -/
def decodeStep? (read : Document → Option Expr) : Option Document → Option (Option Expr)
  | none => some none
  | some .null => some none
  | some document => (read document).map some

/-- Reads a tree that nests arrays and objects up to `depth` levels. -/
def decodeWithin? : Nat → Document → Option Expr
  | 0, _ => none
  | depth + 1, document => do
    let (kind, content) ← document.single?
    match kind with
    | "text" => content.text?.map .text
    | "atom" => content.text?.map .atom
    | "capture" => (← content.numeral?).uint64?.map .capture
    | _ =>
      match depth with
      | 0 => none
      | inner + 1 =>
        match kind with
        | "literal" => (Literal.decode? content).map .literal
        | "list" => (decodeItems? (decodeWithin? inner) content).map .list
        | "attribute" =>
          match ← content.fields? ["subject", "key"] with
          | [some subject, some key] =>
            return .property (← decodeWithin? inner subject) (← key.text?)
          | _ => none
        | "access" =>
          match ← content.fields? ["subject", "index"] with
          | [some subject, some index] =>
            return .access (← decodeWithin? inner subject) (← decodeWithin? inner index)
          | _ => none
        | "range" =>
          match ← content.fields? ["start", "end", "step"] with
          | [some start, some stop, step] =>
            return .range (← decodeWithin? inner start) (← decodeWithin? inner stop)
              (← decodeStep? (decodeWithin? inner) step)
          | _ => none
        | "binary" =>
          match ← content.fields? ["op", "left", "right"] with
          | [some op, some left, some right] =>
            return .binary (← BinaryOp.decode? inner op) (← decodeWithin? inner left)
              (← decodeWithin? inner right)
          | _ => none
        | "function" =>
          match ← content.fields? ["name", "args"] with
          | [name, args] =>
            let name ← match name with
              | none => some ""
              | some name => name.text?
            match inner with
            | 0 => if args.isNone then return .function name [] else none
            | innermost + 1 =>
              return .function name (← decodeArgs? (decodeWithin? innermost) args)
          | _ => none
        | "lambda" =>
          match ← content.fields? ["body"] with
          | [some body] =>
            match inner with
            | 0 => none
            | innermost + 1 => return .lambda (← decodeItems? (decodeWithin? innermost) body)
          | _ => none
        | _ => none

/-- Reads a single tree. -/
def decode? (document : Document) : Option Expr :=
  decodeWithin? Json.depthLimit document

/-- Reads a single tree from its JSON text. -/
def ofJson? (text : String) : Option Expr :=
  (Document.parse? text).bind decode?

end Expr

/-- Reads a template, which is an array of trees. -/
def Template.decode? (document : Document) : Option Template :=
  Expr.decodeItems? (Expr.decodeWithin? (Json.depthLimit - 1)) document

/-- Reads a template from its JSON text. -/
def Template.ofJson? (text : String) : Option Template :=
  (Document.parse? text).bind Template.decode?

end TextTemplate
