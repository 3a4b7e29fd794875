import ScriptAnalysis.Analysis.Error
import ScriptAnalysis.Analysis.Log
import ScriptAnalysis.Source

/-!
# Runs

What an analysis does can be seen in three places: what the builder of trees is asked, what the
scoring engine is asked, and the log. A run is the list of these effects in order, with a result or
a failure. Runs are put together one after the other; after a failure nothing more happens.
-/

namespace ScriptAnalysis

/-- Something an analysis does that can be seen from outside. -/
inductive Effect (T W : Type) where
  | build (code : String) (dialect : Dialect)
  | scoreBatch (units : List (Parsed T)) (walker : W) (options : Options)
  | scoreSingle (tree : T) (walker : W) (options : Options)
  | log (line : LogLine)

/-- The effects of a computation, and what it ends in. -/
structure Run (T W α : Type) where
  effects : List (Effect T W)
  result : Except AnalysisError α

namespace Run

variable {T W α β : Type}

def done (value : α) : Run T W α := ⟨[], .ok value⟩

def fail (error : AnalysisError) : Run T W α := ⟨[], .error error⟩

def perform (effect : Effect T W) : Run T W Unit := ⟨[effect], .ok ()⟩

/-- Go on with what a run gives, unless it fails. -/
def andThen (run : Run T W α) (next : α → Run T W β) : Run T W β :=
  match run.result with
  | .error error => ⟨run.effects, .error error⟩
  | .ok value => ⟨run.effects ++ (next value).effects, (next value).result⟩

instance : Monad (Run T W) where
  pure := done
  bind := andThen

@[simp]
theorem pure_eq (value : α) : (pure value : Run T W α) = ⟨[], .ok value⟩ := rfl

/-- What comes after a result is added to the effects before it. -/
@[simp]
theorem bind_ok (effects : List (Effect T W)) (value : α) (next : α → Run T W β) :
    (⟨effects, .ok value⟩ : Run T W α) >>= next =
      ⟨effects ++ (next value).effects, (next value).result⟩ := rfl

/-- After a failure nothing more happens. -/
@[simp]
theorem bind_error (effects : List (Effect T W)) (error : AnalysisError)
    (next : α → Run T W β) :
    (⟨effects, .error error⟩ : Run T W α) >>= next = ⟨effects, .error error⟩ := rfl

def log (line : LogLine) : Run T W Unit := perform (.log line)

/-- What the builder was asked, in order. -/
def builds (effects : List (Effect T W)) : List (String × Dialect) :=
  effects.filterMap fun
    | .build code dialect => some (code, dialect)
    | _ => none

/-- What the engine was asked, in order. -/
def scorings (effects : List (Effect T W)) : List (Effect T W) :=
  effects.filter fun
    | .scoreBatch _ _ _ => true
    | .scoreSingle _ _ _ => true
    | _ => false

/-- What was logged, in order. -/
def logLines (effects : List (Effect T W)) : List LogLine :=
  effects.filterMap fun
    | .log line => some line
    | _ => none

end Run

end ScriptAnalysis
