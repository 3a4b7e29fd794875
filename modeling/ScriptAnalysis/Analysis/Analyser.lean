import ScriptAnalysis.Analysis.Run
import ScriptAnalysis.Walk.Event

/-!
# Analysers

An analyser joins a builder of trees, a walker and a scoring engine. It builds a tree of each
source, applies the failure policy, and hands the trees to the engine with the walker and the
options.

In a batch the first source that fails ends the analysis, and the failure carries its path; with
`ignoreErrors` a source that fails is dropped instead. A single code has no path to name and nothing
to protect, so its failure is passed on as it is.

The sources of a batch can also be built side by side. Each is then built once, in an order that is
not foreseen; the order in which the builds are done is a `Schedule`. Their results are taken up in
the order of the sources.
-/

namespace ScriptAnalysis

/-- A scoring engine: what it makes of a batch of trees and of a single tree, or its objection. -/
structure Engine (T W R : Type) where
  scoreBatch : List (Parsed T) → W → Options → Except String R
  scoreSingle : T → W → Options → Except String R

/-- An order in which builds are done: each source's turn comes exactly once. -/
structure Schedule (count : Nat) where
  order : List Nat
  perm : order.Perm (List.range count)

/-- The schedule that does the builds one after the other. -/
def Schedule.inOrder (count : Nat) : Schedule count := ⟨List.range count, List.Perm.refl _⟩

/-- A builder of trees, a walker and a scoring engine. -/
structure Analyser (T W R : Type) where
  builder : String → Dialect → Except BuildError T
  walker : W
  engine : Engine T W R

namespace Analyser

variable {T W R : Type}

/-- Ask the builder for a tree. -/
def askBuilder (analyser : Analyser T W R) (code : String) (dialect : Dialect) :
    Run T W (Except BuildError T) := do
  Run.perform (.build code dialect)
  return analyser.builder code dialect

/-- Build one source of a batch; none if it fails and the failure policy drops it. -/
def buildSource (analyser : Analyser T W R) (options : Options) (source : Source) :
    Run T W (Option (Parsed T)) := do
  match ← analyser.askBuilder source.code (.ofOptions options) with
  | .ok tree =>
    Run.log (.parsed source.path)
    return some ⟨source.path, tree⟩
  | .error error =>
    if options.ignoreErrors then
      Run.log (.skipped source.path error)
      return none
    else
      Run.fail (.source source.path error)

/-- Build the sources of a batch one after the other; the units that are kept. -/
def buildSources (analyser : Analyser T W R) (options : Options) :
    List Source → Run T W (List (Parsed T))
  | [] => return []
  | source :: rest => do
    let unit ← analyser.buildSource options source
    let units ← analyser.buildSources options rest
    return unit.toList ++ units

/-- Hand the units of a batch to the engine. -/
def score (analyser : Analyser T W R) (options : Options) (total : Nat)
    (units : List (Parsed T)) : Run T W R := do
  if units.length < total then
    Run.log (.scoring units.length total)
  Run.perform (.scoreBatch units analyser.walker options)
  match analyser.engine.scoreBatch units analyser.walker options with
  | .ok report => return report
  | .error message => Run.fail (.scoring message)

/-- Analyse a batch, one source after the other. -/
def analyseBatch (analyser : Analyser T W R) (options : Options) (sources : List Source) :
    Run T W R := do
  Run.log (.analysing sources.length)
  let units ← analyser.buildSources options sources
  analyser.score options sources.length units

/-- Analyse a single code. -/
def analyseCode (analyser : Analyser T W R) (options : Options) (code : String) :
    Run T W R := do
  match ← analyser.askBuilder code (.ofOptions options) with
  | .error error => Run.fail (.build error)
  | .ok tree =>
    Run.perform (.scoreSingle tree analyser.walker options)
    match analyser.engine.scoreSingle tree analyser.walker options with
    | .ok report => return report
    | .error message => Run.fail (.scoring message)

/-- Analyse a batch or a single code. -/
def analyse (analyser : Analyser T W R) (options : Options) : Input → Run T W R
  | .batch sources => analyser.analyseBatch options sources
  | .single code => analyser.analyseCode options code

/-! ## Builds side by side -/

/-- The runs of tasks in the order of a schedule: all their effects, and each result with the number
of its task. -/
def runScheduled {α : Type} (tasks : List (Run T W α)) (order : List Nat) :
    List (Effect T W) × List (Nat × Except AnalysisError α) :=
  (order.flatMap fun i => (tasks[i]?.map Run.effects).getD [],
    order.filterMap fun i => tasks[i]?.map fun task => (i, task.result))

/-- The results of tasks in the order of their numbers. -/
def inOrder {α : Type} (count : Nat) (finished : List (Nat × α)) : List α :=
  (List.range count).filterMap fun i => finished.lookup i

/-- All the values, or the first failure. -/
def collect {α : Type} : List (Except AnalysisError α) → Except AnalysisError (List α)
  | [] => .ok []
  | .error error :: _ => .error error
  | .ok value :: rest => (collect rest).map (value :: ·)

/-- Build the sources of a batch side by side; the units that are kept. -/
def buildSourcesParallel (analyser : Analyser T W R) (options : Options) (sources : List Source)
    (schedule : Schedule sources.length) : Run T W (List (Parsed T)) :=
  let (effects, finished) :=
    runScheduled (sources.map (analyser.buildSource options)) schedule.order
  ⟨effects, (collect (inOrder sources.length finished)).map fun units => units.filterMap id⟩

/-- Analyse a batch with its sources built side by side. -/
def analyseParallel (analyser : Analyser T W R) (options : Options) (sources : List Source)
    (schedule : Schedule sources.length) : Run T W R := do
  Run.log (.analysingInParallel sources.length)
  let units ← analyser.buildSourcesParallel options sources schedule
  analyser.score options sources.length units

end Analyser

/-- The analyser that builds syntax trees with a parser and walks over named nodes. -/
def syntaxAnalyser {R : Type} (parse : Parser) (engine : Engine SyntaxTree Walk.Walker R) :
    Analyser SyntaxTree Walk.Walker R where
  builder := SyntaxTree.build parse
  walker := .ofNamed
  engine := engine

/-- Analyse a batch or a single code with a parser and a scoring engine. -/
def analyse {R : Type} (parse : Parser) (input : Input) (options : Options)
    (engine : Engine SyntaxTree Walk.Walker R) : Run SyntaxTree Walk.Walker R :=
  (syntaxAnalyser parse engine).analyse options input

end ScriptAnalysis
