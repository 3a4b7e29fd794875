import ScriptAnalysis.Rules.Check

/-!
# Building syntax trees

Code is parsed with the grammar of the dialect and the tree is checked against the dialect's rules.
A strict build fails with the first error; a tolerant one keeps them all beside the tree.
-/

namespace ScriptAnalysis

open Syntax (Node)

/-- What is seen of a tree from outside: its named nodes and missing ones, with their fields, in
the order of the text, the places of everything apart. -/
inductive OutlineMark where
  | enter (kind : String) (field : Option String) (named missing : Bool)
  | leave
  deriving DecidableEq, Repr

mutual

/-- The outline of a tree. -/
def Syntax.Node.outline : Node → List OutlineMark
  | .mk label children =>
    if label.named || label.missing then
      .enter label.kind label.field label.named label.missing ::
        Syntax.Node.outlineAll children ++ [.leave]
    else Syntax.Node.outlineAll children

/-- The outlines of some trees, one after the other. -/
def Syntax.Node.outlineAll : List Node → List OutlineMark
  | [] => []
  | node :: rest => Syntax.Node.outline node ++ Syntax.Node.outlineAll rest

end

/-- A tree together with the code it was built from. -/
structure SyntaxTree where
  code : String
  root : Node
  grammar : Grammar
  /-- The errors that a tolerant build found; none after a strict one. -/
  errors : List BuildError

/-- The parser: the tree of a code by a grammar. -/
abbrev Parser := Grammar → String → Node

namespace SyntaxTree

/-- The code as a text. -/
def text (tree : SyntaxTree) : List Char := tree.code.toList

/-- The number of lines of the code. -/
def lineCount (tree : SyntaxTree) : Nat := Text.lineCount tree.text

/-- The code that a node covers. -/
def textOf (tree : SyntaxTree) (node : Node) : String := String.ofList (node.text tree.text)

/-- Trees are equal when they were built from the same code by the same grammar with the same
errors, and have the same outline. -/
instance : BEq SyntaxTree where
  beq a b := a.grammar == b.grammar && a.code == b.code && a.errors == b.errors &&
    a.root.outline == b.root.outline

/-- Build a tree. The dialect's edition is looked at before anything is parsed. -/
def build (parse : Parser) (code : String) (dialect : Dialect) :
    Except BuildError SyntaxTree :=
  match Rules.ofDialect dialect with
  | .error unknown => .error unknown
  | .ok rules =>
    let root := parse rules.grammar code
    let errors := rules.check code.toList root
    match errors with
    | [] => .ok ⟨code, root, rules.grammar, []⟩
    | first :: _ =>
      if dialect.isTolerant then .ok ⟨code, root, rules.grammar, errors⟩ else .error first

end SyntaxTree

end ScriptAnalysis
