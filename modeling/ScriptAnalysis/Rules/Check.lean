import ScriptAnalysis.Dialect
import ScriptAnalysis.Rules.Edition
import ScriptAnalysis.Rules.Recovery
import ScriptAnalysis.Syntax.Traversal

/-!
# Checking a tree against a dialect

The parser takes the newest syntax it knows. What the dialect does not have is found on the tree:
each named node is held to the rules below, and each error node and missing one is reported. What
lies under an error node, a missing one or markup that the dialect rejects is not looked at, since
one report is enough for all of it.
-/

namespace ScriptAnalysis

open Text (Token)
open Syntax (Node Visitor withinFunction)

/-- What a dialect demands of a tree. -/
structure Rules where
  grammar : Grammar
  year : Nat
  isModule : Bool
  markup : Bool
  globalReturn : Bool
  deriving DecidableEq, Repr

/-- The rule that a node breaks. -/
inductive Breach where
  /-- Imports, exports and `import.meta` are for modules only. -/
  | moduleOnly
  /-- Modules are strict, and strict code has no `with`. -/
  | withInModule
  /-- Markup has to be asked for. -/
  | markup
  /-- A return needs a function around it, unless global returns are asked for. -/
  | returnOutsideFunction
  /-- The edition does not have the syntax yet. -/
  | tooNew
  deriving DecidableEq, Repr

namespace Rules

/-- The rules of a dialect, if its edition exists. -/
def ofDialect (dialect : Dialect) : Except BuildError Rules :=
  (yearOf dialect.version).map fun year =>
    { grammar := .ofDialect dialect
      year
      isModule := dialect.isModule
      markup := dialect.hasFeature "jsx"
      globalReturn := dialect.hasFeature "globalReturn" }

/-- Whether a node is `import.meta`. A grammar may have a node of its own for it, or take it for a
member of `import`. -/
def isImportMeta (text : List Char) (node : Node) : Bool :=
  match node.kind with
  | "meta_property" => node.firstLeaf.kind == "import"
  | "member_expression" =>
    (node.childOf? "object").map Node.kind == some "import" &&
      ((node.childOf? "property").bind (·.text? text)) == some "meta".toList
  | _ => false

/-- Whether a node is of a kind that only modules have. -/
def isModuleOnly (text : List Char) (node : Node) : Bool :=
  node.kind == "import_statement" || node.kind == "export_statement" || isImportMeta text node

/-- Whether a node is markup that the dialect rejects. -/
def rejectsMarkup (rules : Rules) (node : Node) : Bool :=
  rules.grammar == .javaScript && !rules.markup &&
    (node.kind == "jsx_element" || node.kind == "jsx_self_closing_element")

/-- Whether the edition is too old for a node. Editions are a matter of the plain grammar only. -/
def isTooNew (rules : Rules) (text : List Char) (ancestors : List Node) (node : Node) : Bool :=
  rules.grammar == .javaScript &&
    (introduced? text ancestors node).any fun year => decide (rules.year < year)

/-- The first rule that a named node breaks. -/
def breach? (rules : Rules) (text : List Char) (ancestors : List Node) (node : Node) :
    Option Breach :=
  if !rules.isModule && isModuleOnly text node then some .moduleOnly
  else if rules.isModule && node.kind == "with_statement" then some .withInModule
  else if rules.rejectsMarkup node then some .markup
  else if node.kind == "return_statement" && !rules.globalReturn && !withinFunction ancestors then
    some .returnOutsideFunction
  else if rules.isTooNew text ancestors node then some .tooNew
  else none

end Rules

/-- The error that reports a breach. -/
def Breach.report (text : List Char) (node : Node) : Breach → BuildError
  | .moduleOnly => (Rules.Offence.ofNode node).report text
  | .withInModule =>
    .atOffset text node.start "Strict mode code may not include a with statement"
  | .markup => .atOffset text node.start "Unexpected token <"
  | .returnOutsideFunction => .atOffset text node.start "Illegal return statement"
  | .tooNew => (Rules.Offence.ofNode node).report text

namespace Rules

/-- Whether a node stands for a fault of the parse. -/
def isFault (node : Node) : Bool := node.isError || node.isMissing

/-- The error at a node, if there is one. -/
def errorAt? (rules : Rules) (text : List Char) (ancestors : List Node) (node : Node) :
    Option BuildError :=
  if isFault node then some (recoveryError text node)
  else if node.isNamed then
    (rules.breach? text ancestors node).map (·.report text node)
  else none

/-- Whether what lies under a node is looked at: not under a fault, and under a node that breaks a
rule unless it is rejected markup, where one report is enough for all of it. -/
def looksBelow (rules : Rules) (text : List Char) (ancestors : List Node) (node : Node) : Bool :=
  if isFault node then false
  else if node.isNamed && (rules.breach? text ancestors node).isSome then
    !rules.rejectsMarkup node
  else true

/-- The visitor that reports the errors of a tree. -/
def checker (rules : Rules) (text : List Char) : Visitor BuildError where
  enter ancestors node := (rules.errorAt? text ancestors node).toList
  descends ancestors node := rules.looksBelow text ancestors node
  leave _ _ := []

/-- All errors of a tree, in the order of the text. -/
def check (rules : Rules) (text : List Char) (root : Node) : List BuildError :=
  (rules.checker text).run (.atRoot root)

end Rules

end ScriptAnalysis
