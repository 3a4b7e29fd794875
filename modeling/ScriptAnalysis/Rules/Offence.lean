import ScriptAnalysis.BuildError
import ScriptAnalysis.Text.Token
import ScriptAnalysis.Syntax.Node

/-!
# Where a construct offends

A construct that the dialect does not have is reported where a parser of that dialect would stop: at
the token that introduces it, or at the token after a part that is still fine.
-/

namespace ScriptAnalysis.Rules

open Text (Token)
open Syntax (Node)

/-- The error at the token at or after a byte offset. -/
def errorAtToken (text : List Char) (index : Nat) : BuildError :=
  let token := Token.atOffset text index
  .atOffset text token.start (Token.describe token.text)

/-- What of a construct is reported. -/
inductive Offence where
  /-- A node, described by its text. -/
  | node (token : Node)
  /-- The token at or after a byte offset. -/
  | tokenAfter (index : Nat)

namespace Offence

/-- The token after the child that the node holds under a field, or else the node's first leaf. -/
def afterChild (node : Node) (field : String) : Offence :=
  match node.childOf? field with
  | some child => .tokenAfter child.stop
  | none => .node node.firstLeaf

/-- What of a node is reported when the dialect does not have it. An operator is reported itself, a
loop over values at its `of`, a shorthand, a default value and a method at the token after the name;
anything else at its first token. -/
def ofNode (node : Node) : Offence :=
  match node.kind with
  | "binary_expression" => .node ((node.childOf? "operator").getD node)
  | "augmented_assignment_expression" => .node ((node.childOf? "operator").getD node)
  | "for_in_statement" => .node ((node.childOfKind? "of").getD node.firstLeaf)
  | "shorthand_property_identifier" => .tokenAfter node.stop
  | "assignment_pattern" => afterChild node "left"
  | "method_definition" => afterChild node "name"
  | _ => .node node.firstLeaf

/-- The error that reports an offence. -/
def report (text : List Char) : Offence → BuildError
  | .node token => .atOffset text token.start (Token.describe (token.text text))
  | .tokenAfter index => errorAtToken text index

end Offence

end ScriptAnalysis.Rules
