import ScriptAnalysis.Text.Line

/-!
# Failed builds

Why code cannot be turned into a tree, and how each failure is worded.
-/

namespace ScriptAnalysis

open Text (Position)

/-- A failure to turn code into a tree. -/
inductive BuildError where
  /-- The code is malformed or not of the dialect; line and column count from one, the index counts
  bytes from zero. -/
  | malformed (line column index : Nat) (description : String)
  /-- The dialect asks for an edition that does not exist. -/
  | unknownVersion (version : UInt32)
  /-- The grammar cannot be loaded. -/
  | noGrammar (reason : String)
  /-- The parser gave no tree. -/
  | aborted
  deriving DecidableEq, Repr

namespace BuildError

/-- The wording of a failure. -/
def message : BuildError → String
  | .malformed line _ _ description => "Line " ++ toString line ++ ": " ++ description
  | .unknownVersion version => "Invalid ecmaVersion: " ++ toString version.toNat
  | .noGrammar reason => "Failed to load grammar: " ++ reason
  | .aborted => "Parser returned no tree"

def line? : BuildError → Option Nat
  | .malformed line _ _ _ => some line
  | _ => none

def column? : BuildError → Option Nat
  | .malformed _ column _ _ => some column
  | _ => none

def index? : BuildError → Option Nat
  | .malformed _ _ index _ => some index
  | _ => none

def description? : BuildError → Option String
  | .malformed _ _ _ description => some description
  | _ => none

/-- The error at a byte offset of a text. -/
def atOffset (text : List Char) (index : Nat) (description : String) : BuildError :=
  let position := Position.ofOffset text index
  .malformed position.line position.column index description

end BuildError

end ScriptAnalysis
