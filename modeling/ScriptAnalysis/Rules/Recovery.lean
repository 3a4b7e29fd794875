import ScriptAnalysis.Rules.Offence

/-!
# Where the parser lost its way

The parser wraps what it had to skip in an error node, which may begin well before the fault. The
fault is looked for as follows.

* An error node that runs to the end of the input and ends in a token that calls for another is a
  fault at the end of the input.
* An error node that begins with a whole construct or a word is sound up to there: the fault is the
  token after it.
* Otherwise the fault is the error node's own first token.

A token that the parser made up is a fault where it should have stood.
-/

namespace ScriptAnalysis.Rules

open Text (Token)
open Syntax (Node)

/-- The tokens after which the input may stop. -/
def closingTokens : List String :=
  [")", "]", "\x7d", ";", "\"", "'", "\x60", "++", "--", "this", "true", "false", "null", "super",
   "break", "continue", "debugger", "return"]

/-- Whether the input may not stop right after a leaf. -/
def callsForMore (text : List Char) (leaf : Node) : Bool :=
  if leaf.isMissing then true
  else if leaf.isNamed then false
  else !closingTokens.contains (String.ofList (leaf.text text))

/-- Whether the first child of an error node is sound: a whole construct or a word. -/
def isSound (text : List Char) (node : Node) : Bool :=
  !node.isError && !node.isMissing &&
    (node.isNamed || (node.text text).head?.any Text.beginsIdentifier)

/-- The byte length of a text without the blanks it ends in. -/
def contentEnd (text : List Char) : Nat := Text.byteLength (Text.trimEnd text)

/-- The byte offset of the fault in an error node. -/
def faultIndex (text : List Char) (node : Node) : Nat :=
  if contentEnd text ≤ node.stop ∧ callsForMore text node.lastLeaf = true then contentEnd text
  else
    match node.children with
    | [] => node.start
    | [first] =>
      if isSound text first && !(Token.atOffset text node.stop).text.isEmpty then node.stop
      else node.start
    | first :: _ :: _ => if isSound text first then first.stop else node.start

/-- The error that reports an error node or a missing one. -/
def recoveryError (text : List Char) (node : Node) : BuildError :=
  errorAtToken text (if node.isMissing then node.start else faultIndex text node)

end ScriptAnalysis.Rules
