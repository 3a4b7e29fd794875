import ScriptAnalysis.BuildError

/-!
# Failed analyses

An analysis of one code fails as the build does; in a batch the failure carries the path of its
source. What the scoring engine objects to is passed on as it is.
-/

namespace ScriptAnalysis

inductive AnalysisError where
  /-- The single code cannot be built. -/
  | build (error : BuildError)
  /-- A source of a batch cannot be built. -/
  | source (path : String) (error : BuildError)
  /-- The scoring engine failed. -/
  | scoring (message : String)
  deriving DecidableEq, Repr

namespace AnalysisError

/-- The wording of a failure. -/
def message : AnalysisError → String
  | .build error => error.message
  | .source path error => path ++ ": " ++ error.message
  | .scoring message => message

def path? : AnalysisError → Option String
  | .source path _ => some path
  | _ => none

/-- The failed build behind the failure. -/
def buildError? : AnalysisError → Option BuildError
  | .build error => some error
  | .source _ error => some error
  | .scoring _ => none

/-- The failure that another one adds to. A failure that is passed on unchanged adds nothing. -/
def cause? : AnalysisError → Option BuildError
  | .source _ error => some error
  | _ => none

end AnalysisError

end ScriptAnalysis
