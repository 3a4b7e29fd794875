import ScriptAnalysis.Text.Offset

/-!
# Syntax trees as the parser leaves them

A node carries a label and a list of children. The label says what the node is, which bytes of the
text it covers and under which field its parent holds it. Named nodes are those the grammar gives a
rule of their own; the others are keywords, operators and punctuation. Where the parser could not
go on it leaves a node marked as an error around what it skipped, or an empty node marked as missing
where it made a token up. Declarations, expressions, arrows, generators and methods open the body of a
function.
-/

namespace ScriptAnalysis.Syntax

/-- What the parser says of a node, its children apart. -/
structure Label where
  kind : String
  named : Bool := true
  error : Bool := false
  missing : Bool := false
  start : Nat
  stop : Nat
  field : Option String := none
  deriving DecidableEq, Repr

inductive Node where
  | mk (label : Label) (children : List Node)

namespace Node

def label : Node → Label
  | .mk label _ => label

def children : Node → List Node
  | .mk _ children => children

@[simp]
theorem label_mk (label : Label) (children : List Node) : (mk label children).label = label := rfl

@[simp]
theorem children_mk (label : Label) (children : List Node) :
    (mk label children).children = children := rfl

theorem eta (node : Node) : mk node.label node.children = node := by cases node; rfl

/-- The name of the grammar rule, or the text of the token. -/
abbrev kind (node : Node) : String := node.label.kind

/-- Whether the grammar has a rule for the node. -/
abbrev isNamed (node : Node) : Bool := node.label.named

/-- Whether the node holds what the parser skipped. -/
abbrev isError (node : Node) : Bool := node.label.error

/-- Whether the node is a token the parser made up. -/
abbrev isMissing (node : Node) : Bool := node.label.missing

/-- The byte offset of the node's first byte. -/
abbrev start (node : Node) : Nat := node.label.start

/-- The byte offset after the node's last byte. -/
abbrev stop (node : Node) : Nat := node.label.stop

/-- **Induction on a tree**: what holds of a node when it holds of its children holds of all. -/
@[elab_as_elim]
theorem induction {motive : Node → Prop}
    (node : ∀ label children, (∀ child ∈ children, motive child) → motive (mk label children)) :
    ∀ root : Node, motive root
  | .mk label children => node label children fun child _hMem => induction node child

/-! ## Size -/

mutual

def size : Node → Nat
  | .mk _ children => 1 + sizeAll children

def sizeAll : List Node → Nat
  | [] => 0
  | node :: rest => size node + sizeAll rest

end

theorem size_eq (node : Node) : node.size = 1 + sizeAll node.children := by
  cases node; rw [size, children_mk]

theorem size_pos (node : Node) : 0 < node.size := by rw [size_eq]; omega

/-! ## Looking around -/

/-- The first child the node holds under a field. -/
def childOf? (node : Node) (field : String) : Option Node :=
  node.children.find? fun child => child.label.field == some field

def childOfKind? (node : Node) (kind : String) : Option Node :=
  node.children.find? fun child => child.kind == kind

def hasChild (node : Node) (kind : String) : Bool := (node.childOfKind? kind).isSome

def namedChildCount (node : Node) : Nat := node.children.countP isNamed

def firstLeaf : Node → Node
  | .mk label [] => .mk label []
  | .mk _ (child :: _) => firstLeaf child

mutual

/-- The last leaf of a tree. -/
def lastLeaf : Node → Node
  | .mk label children => (lastLeafOfLast? children).getD (.mk label children)

/-- The last leaf of the last of some trees. -/
def lastLeafOfLast? : List Node → Option Node
  | [] => none
  | [node] => some (lastLeaf node)
  | _ :: node :: rest => lastLeafOfLast? (node :: rest)

end

/-- The text a node covers. -/
def text? (node : Node) (text : List Char) : Option (List Char) :=
  Text.slice? text node.start node.stop

/-- The text a node covers, empty where the node does not lie in the text. -/
def text (node : Node) (text : List Char) : List Char := (node.text? text).getD []

end Node

/-! ## Functions -/

/-- The kinds of node that open a function body. -/
def functionKinds : List String :=
  ["function_declaration", "function_expression", "function", "arrow_function",
   "generator_function_declaration", "generator_function", "method_definition"]

/-- Whether a kind of node opens a function body. -/
def opensFunction (kind : String) : Bool := functionKinds.contains kind

/-- Whether one of a node's ancestors opens a function body. -/
def withinFunction (ancestors : List Node) : Bool :=
  ancestors.any fun node => opensFunction node.kind

end ScriptAnalysis.Syntax
