import ScriptAnalysis.Text.Line
import ScriptAnalysis.Syntax.Node

/-!
# Scopes

A scope is a function as a reader of the code would refer to it: by its own name, or by the name of
the variable, property or field it is assigned to.
-/

namespace ScriptAnalysis.Walk

open Syntax (Node opensFunction)

/-- A function met on a walk. -/
structure Scope where
  name : String
  kind : String
  lineStart : Nat
  lineEnd : Nat
  paramCount : Nat
  deriving DecidableEq, Repr

namespace Scope

def unnamed : String := "<anonymous>"

def isUnnamed (scope : Scope) : Bool := scope.name == unnamed

/-- The part of a function's parent that names the function. -/
def namingPart? (parent : Node) : Option Node :=
  match parent.kind with
  | "variable_declarator" => parent.childOf? "name"
  | "pair" => parent.childOf? "key"
  | "assignment_expression" => parent.childOf? "left"
  | "field_definition" => (parent.childOf? "property").or (parent.childOf? "name")
  | "public_field_definition" => (parent.childOf? "property").or (parent.childOf? "name")
  | _ => none

/-- The node that names a function: the function's own name, or else a part of its parent. -/
def namingNode? (ancestors : List Node) (node : Node) : Option Node :=
  (node.childOf? "name").or (ancestors.head?.bind namingPart?)

def nameOf (text : List Char) (ancestors : List Node) (node : Node) : String :=
  (((namingNode? ancestors node).bind (·.text? text)).map String.ofList).getD unnamed

/-- The number of parameters of a function: the named children of its list, or the one that stands
without a list. -/
def paramCountOf (node : Node) : Nat :=
  match node.childOf? "parameters" with
  | some params => params.namedChildCount
  | none => if (node.childOf? "parameter").isSome then 1 else 0

def ofNode (text : List Char) (ancestors : List Node) (node : Node) : Scope where
  name := nameOf text ancestors node
  kind := node.kind
  lineStart := Text.rowAt text node.start + 1
  lineEnd := Text.rowAt text node.stop + 1
  paramCount := paramCountOf node

/-- Whether a node opens a scope. -/
def opensAt (node : Node) : Bool := node.isNamed && opensFunction node.kind

end Scope

end ScriptAnalysis.Walk
