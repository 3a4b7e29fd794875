import ScriptAnalysis.Syntax.Traversal
import ScriptAnalysis.Walk.Scope

/-!
# Walks

A walk over a tree tells its listener of each node entered and left, and of each scope opened and
closed; a scope is opened before its node is entered and closed after the node is left. Nodes
without a name are passed over unless they are asked for.
-/

namespace ScriptAnalysis.Walk

open Syntax (Node Visitor)

/-- What a listener is told. -/
inductive Event where
  | scopeOpened (scope : Scope)
  | entered (node : Node)
  | left (node : Node)
  | scopeClosed

/-- How a tree is walked. -/
structure Walker where
  /-- Whether nodes without a name are told of too. -/
  tellsAll : Bool
  deriving DecidableEq, Repr

namespace Walker

def ofNamed : Walker := ⟨false⟩

def ofAll : Walker := ⟨true⟩

/-- Whether a node is told of. -/
def tellsOf (walker : Walker) (node : Node) : Bool := walker.tellsAll || node.isNamed

/-- The visitor of a walk over the tree of a text. -/
def visitor (walker : Walker) (text : List Char) : Visitor Event where
  enter ancestors node :=
    (if Scope.opensAt node then [.scopeOpened (.ofNode text ancestors node)] else []) ++
      if walker.tellsOf node then [.entered node] else []
  descends _ _ := true
  leave _ node :=
    (if walker.tellsOf node then [.left node] else []) ++
      if Scope.opensAt node then [.scopeClosed] else []

def walk (walker : Walker) (text : List Char) (root : Node) : List Event :=
  (walker.visitor text).run (.atRoot root)

end Walker

/-- The scopes opened on a walk, in order. -/
def scopes (events : List Event) : List Scope :=
  events.filterMap fun
    | .scopeOpened scope => some scope
    | _ => none

/-- How many scopes are open, and how many have been at most. -/
structure Depth where
  depth : Nat := 0
  maxDepth : Nat := 0
  deriving DecidableEq, Repr

namespace Depth

/-- The count after one more event. -/
def after (count : Depth) : Event → Depth
  | .scopeOpened _ => ⟨count.depth + 1, max count.maxDepth (count.depth + 1)⟩
  | .scopeClosed => { count with depth := count.depth - 1 }
  | _ => count

def ofEvents (events : List Event) : Depth := events.foldl after {}

end Depth

end ScriptAnalysis.Walk
