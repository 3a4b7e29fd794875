import ScriptAnalysis.SyntaxTree

/-!
# The log

What an analysis and a build write down on their way, with the level and the wording of each line.
-/

namespace ScriptAnalysis

inductive LogLine where
  /-- A batch is analysed one source after the other. -/
  | analysing (count : Nat)
  /-- A batch is analysed with its sources built side by side. -/
  | analysingInParallel (count : Nat)
  /-- A source of a batch was built. -/
  | parsed (path : String)
  /-- A source of a batch was dropped. -/
  | skipped (path : String) (error : BuildError)
  /-- Fewer sources are scored than were given. -/
  | scoring (kept total : Nat)
  /-- A tree was built. -/
  | built (bytes : Nat) (grammar : Grammar) (tolerated : Nat)
  deriving DecidableEq, Repr

namespace LogLine

def level : LogLine → String
  | .skipped _ _ => "WARN"
  | .built _ _ _ => "TRACE"
  | _ => "DEBUG"

/-- The wording of a line. -/
def message : LogLine → String
  | .analysing count => "Analysing " ++ toString count ++ " sources"
  | .analysingInParallel count => "Analysing " ++ toString count ++ " sources in parallel"
  | .parsed path => "Parsed " ++ path
  | .skipped path error => "Skipping " ++ path ++ ": " ++ error.message
  | .scoring kept total => "Scoring " ++ toString kept ++ " of " ++ toString total ++ " sources"
  | .built bytes grammar tolerated =>
    "Parsed " ++ toString bytes ++ " bytes as " ++ grammar.name ++ " (" ++ toString tolerated ++
      " tolerated errors)"

def text (line : LogLine) : String := line.level ++ " " ++ line.message

end LogLine

/-- What is logged of a build that succeeds. -/
def SyntaxTree.logLine (tree : SyntaxTree) : LogLine :=
  .built (Text.byteLength tree.text) tree.grammar tree.errors.length

end ScriptAnalysis
