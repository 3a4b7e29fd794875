import ScriptAnalysis.BuildError
import ScriptAnalysis.Syntax.Node

/-!
# Language editions

An edition is known by its year. `yearOf` reads the version a dialect asks for, which is an
edition's number or its year, and `introduced?` gives the year of the edition that brought the
syntax of a node in.
-/

namespace ScriptAnalysis.Rules

open Syntax (Node opensFunction)

/-- The year of the newest edition, which is taken where no version is asked for. -/
def latestYear : Nat := 2025

/-- The year of a version. Versions are numbered 3, 5 and 6 to 16, and from 2015 on they are known
by their years too. -/
def yearOf : Option UInt32 → Except BuildError Nat
  | none => .ok latestYear
  | some version =>
    let n := version.toNat
    if n = 3 then .ok 1999
    else if n = 5 then .ok 2009
    else if 6 ≤ n ∧ n ≤ 16 then .ok (2009 + n)
    else if 2015 ≤ n ∧ n ≤ latestYear then .ok n
    else .error (.unknownVersion version)

/-- A method of an object literal that is no accessor. -/
def isPlainMethod (ancestors : List Node) (node : Node) : Bool :=
  node.kind == "method_definition" && (ancestors.head?.map Node.kind == some "object") &&
    !node.hasChild "get" && !node.hasChild "set"

/-- The text of the node's operator, empty if it has none. -/
def operatorText (text : List Char) (node : Node) : String :=
  String.ofList (((node.childOf? "operator").bind (·.text? text)).getD [])

/-- The kinds of node that are of one edition whatever they hold, with its year. -/
def kindYears : List (String × Nat) :=
  [("arrow_function", 2015), ("class_declaration", 2015), ("class", 2015),
   ("lexical_declaration", 2015), ("template_string", 2015), ("spread_element", 2015),
   ("rest_pattern", 2015), ("generator_function_declaration", 2015),
   ("generator_function", 2015), ("yield_expression", 2015), ("import_statement", 2015),
   ("export_statement", 2015), ("object_pattern", 2015), ("array_pattern", 2015),
   ("meta_property", 2015), ("shorthand_property_identifier", 2015),
   ("assignment_pattern", 2015), ("computed_property_name", 2015), ("await_expression", 2017),
   ("optional_chain", 2020), ("class_static_block", 2022), ("private_property_identifier", 2022),
   ("field_definition", 2022)]

/-- The binary operators that are newer than the first editions. -/
def binaryYears : List (String × Nat) := [("**", 2016), ("??", 2020)]

/-- The assignment operators that are newer than the first editions. -/
def assignmentYears : List (String × Nat) :=
  [("**=", 2016), ("&&=", 2021), ("||=", 2021), ("??=", 2021)]

/-- The year of the edition that brought in a node's form, its being asynchronous apart. -/
def formYear? (text : List Char) (ancestors : List Node) (node : Node) : Option Nat :=
  match node.kind with
  | "for_in_statement" =>
    if node.hasChild "await" then some 2018
    else if node.hasChild "of" then some 2015
    else none
  | "method_definition" => if isPlainMethod ancestors node then some 2015 else none
  | "binary_expression" => binaryYears.lookup (operatorText text node)
  | "augmented_assignment_expression" => assignmentYears.lookup (operatorText text node)
  | kind => kindYears.lookup kind

/-- Whether a node is a function marked as asynchronous. -/
def isAsyncFunction (node : Node) : Bool := opensFunction node.kind && node.hasChild "async"

/-- The year of the edition that brought in a node's syntax; none if every edition has it. -/
def introduced? (text : List Char) (ancestors : List Node) (node : Node) : Option Nat :=
  let form := formYear? text ancestors node
  if isAsyncFunction node then some (max (form.getD 0) 2017) else form

end ScriptAnalysis.Rules
