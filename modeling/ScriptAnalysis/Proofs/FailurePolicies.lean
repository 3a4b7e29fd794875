import Mathlib.Data.List.Basic
import ScriptAnalysis.Proofs.Batch
import ScriptAnalysis.Proofs.Build

/-!
# Two knobs on failures

A build can be tolerant and record the errors of its code, and an analysis can ignore the builds
that fail.  `Scores` says that a run hands some units to the engine, `FailsAt` that it fails with a
source instead.

* `analyse_policies`: a batch under each setting of the two knobs, told by the trees that the
  tolerant builds give.
-/

namespace ScriptAnalysis

open Run (scorings)

/-! ### Handing units over -/

namespace Analyser

variable {T W R : Type} (analyser : Analyser T W R) (options : Options)

/-- The engine is asked once, about these units, and the run ends in its answer. -/
structure Scores (run : Run T W R) (units : List (Parsed T)) : Prop where
  asked : scorings run.effects = [.scoreBatch units analyser.walker options]
  ended : run.result =
    (analyser.engine.scoreBatch units analyser.walker options).mapError .scoring

/-- The engine is not asked, and the run fails with a source. -/
structure FailsAt (run : Run T W R) (source : Source) (error : BuildError) : Prop where
  unasked : scorings run.effects = []
  ended : run.result = .error (.source source.path error)

theorem scores_of_goesOn {sources : List Source}
    (h : ∀ source ∈ sources, analyser.GoesOn options source) :
    analyser.Scores options (analyser.analyse options (.batch sources))
      (sources.filterMap (analyser.unit? options)) := by
  have hRun : analyser.analyse options (.batch sources) = _ :=
    analyser.analyseBatch_of_goesOn options h
  rw [hRun]
  refine ⟨?_, rfl⟩
  simp [scorings_traces]

theorem failsAt_of_givesUpAt {before : List Source} {source : Source} {error : BuildError}
    (h : analyser.GivesUpAt options before source error) (after : List Source) :
    FailsAt (analyser.analyse options (.batch (before ++ source :: after))) source error := by
  have hRun : analyser.analyse options (.batch (before ++ source :: after)) = _ :=
    analyser.analyseBatch_of_givesUpAt options h after
  rw [hRun]
  refine ⟨?_, rfl⟩
  simp [scorings_traces]

/-- When every source is built, every unit is handed over. -/
theorem scores_of_built {sources : List Source} {tree : Source → T}
    (h : ∀ source ∈ sources, analyser.answer options source = .ok (tree source)) :
    analyser.Scores options (analyser.analyse options (.batch sources))
      (sources.map fun source => ⟨source.path, tree source⟩) := by
  have hUnits : sources.filterMap (analyser.unit? options) =
      sources.map fun source => ⟨source.path, tree source⟩ := by
    rw [← List.filterMap_eq_map]
    refine List.filterMap_congr fun source hMem => ?_
    rw [unit?, h source hMem]
    rfl
  rw [← hUnits]
  exact analyser.scores_of_goesOn options fun source hMem => Or.inr ⟨tree source, h source hMem⟩

/-- The trees that are handed over are those the builder gave. -/
theorem built_of_scored {sources : List Source} {units : List (Parsed T)} {walker : W}
    {asked : Options}
    (h : .scoreBatch units walker asked ∈ (analyser.analyse options (.batch sources)).effects) :
    ∀ unit ∈ units, ∃ source ∈ sources, analyser.answer options source = .ok unit.tree := by
  have hAsked : .scoreBatch units walker asked ∈
      scorings (analyser.analyse options (.batch sources)).effects :=
    List.mem_filter.mpr ⟨h, rfl⟩
  rcases analyser.givesUpAt_or_goesOn options sources with
    ⟨before, source, after, error, rfl, hGivenUp⟩ | hGoesOn
  · rw [(analyser.failsAt_of_givesUpAt options hGivenUp after).unasked] at hAsked
    cases hAsked
  · rw [(analyser.scores_of_goesOn options hGoesOn).asked, List.mem_singleton] at hAsked
    obtain ⟨rfl, _, _⟩ := Effect.scoreBatch.inj hAsked
    intro unit hMem
    obtain ⟨source, hSource, hUnit⟩ := List.mem_filterMap.mp hMem
    refine ⟨source, hSource, ?_⟩
    rw [unit?] at hUnit
    split at hUnit
    · rename_i tree hTree
      obtain rfl := Option.some.inj hUnit
      exact hTree
    · cases hUnit

end Analyser

/-! ### The policies -/

section Policies

open Analyser

variable {R : Type} (parse : Parser) (engine : Engine SyntaxTree Walk.Walker R) (options : Options)

/-- The units of some sources with the trees of a builder that records errors. -/
def unitsOf (tree : Source → SyntaxTree) (sources : List Source) : List (Parsed SyntaxTree) :=
  sources.map fun source => ⟨source.path, tree source⟩

section Supported

variable {parse options} {rules : Rules}
  (hRules : Rules.ofDialect (.ofOptions options) = .ok rules)
  (hStrict : (Dialect.ofOptions options).isTolerant = false)

include hRules

/-- A tolerant builder hands every tree over. -/
theorem scores_tolerant (hTolerant : (Dialect.ofOptions options).isTolerant = true)
    (sources : List Source) :
    (syntaxAnalyser parse engine).Scores options (analyse parse (.batch sources) options engine)
      (unitsOf (fun source => .checked parse rules source.code) sources) :=
  (syntaxAnalyser parse engine).scores_of_built options fun _ _ =>
    SyntaxTree.build_tolerant hRules hTolerant

theorem scores_of_errors_nil {sources : List Source}
    (h : ∀ source ∈ sources, (SyntaxTree.checked parse rules source.code).errors = []) :
    (syntaxAnalyser parse engine).Scores options (analyse parse (.batch sources) options engine)
      (unitsOf (fun source => .checked parse rules source.code) sources) :=
  (syntaxAnalyser parse engine).scores_of_built options fun source hMem =>
    SyntaxTree.build_strict_of_nil hRules (h source hMem)

include hStrict

theorem unit?_strict (source : Source) :
    (syntaxAnalyser parse engine).unit? options source =
      Option.guard (fun unit => unit.tree.errors.isEmpty)
        ⟨source.path, .checked parse rules source.code⟩ := by
  rw [unit?]
  cases hErrors : (SyntaxTree.checked parse rules source.code).errors with
  | nil =>
    have hAnswer : (syntaxAnalyser parse engine).answer options source = _ :=
      SyntaxTree.build_strict_of_nil hRules hErrors
    rw [hAnswer]
    simp [Option.guard, hErrors]
  | cons first rest =>
    have hAnswer : (syntaxAnalyser parse engine).answer options source = _ :=
      SyntaxTree.build_strict_of_cons hRules hStrict hErrors
    rw [hAnswer]
    simp [Option.guard, hErrors]

/-- With failures dropped, the trees without errors are handed over. -/
theorem scores_ignoring (hIgnore : options.ignoreErrors = true) (sources : List Source) :
    (syntaxAnalyser parse engine).Scores options (analyse parse (.batch sources) options engine)
      ((unitsOf (fun source => .checked parse rules source.code) sources).filter
        fun unit => unit.tree.errors.isEmpty) := by
  have hUnits : sources.filterMap ((syntaxAnalyser parse engine).unit? options) =
      (unitsOf (fun source => .checked parse rules source.code) sources).filter
        fun unit => unit.tree.errors.isEmpty := by
    rw [unitsOf, ← List.filterMap_eq_filter, List.filterMap_map]
    exact List.filterMap_congr fun source _ => unit?_strict engine hRules hStrict source
  rw [← hUnits]
  exact (syntaxAnalyser parse engine).scores_of_goesOn options fun _ _ => Or.inl hIgnore

/-- With no failure dropped, the first tree with errors ends the batch with its first error. -/
theorem failsAt_of_errors_cons (hKeep : options.ignoreErrors = false) {before : List Source}
    {source : Source} {first : BuildError} {rest : List BuildError}
    (hBefore : ∀ earlier ∈ before, (SyntaxTree.checked parse rules earlier.code).errors = [])
    (hErrors : (SyntaxTree.checked parse rules source.code).errors = first :: rest)
    (after : List Source) :
    FailsAt (analyse parse (.batch (before ++ source :: after)) options engine) source first := by
  refine (syntaxAnalyser parse engine).failsAt_of_givesUpAt options ⟨hKeep, ?_, ?_⟩ after
  · intro earlier hMem
    exact ⟨_, SyntaxTree.build_strict_of_nil hRules (hBefore earlier hMem)⟩
  · exact SyntaxTree.build_strict_of_cons hRules hStrict hErrors

/-- With no failure dropped, the engine is asked only when no tree has errors. -/
theorem errors_nil_of_scored (hKeep : options.ignoreErrors = false) {sources : List Source}
    (hScored : scorings (analyse parse (.batch sources) options engine).effects ≠ []) :
    ∀ source ∈ sources, (SyntaxTree.checked parse rules source.code).errors = [] := by
  intro source hMem
  rcases (syntaxAnalyser parse engine).givesUpAt_or_goesOn options sources with
    ⟨before, rejected, after, error, rfl, hGivenUp⟩ | hGoesOn
  · exact absurd ((syntaxAnalyser parse engine).failsAt_of_givesUpAt options hGivenUp after).unasked
      hScored
  · exact (SyntaxTree.exists_build_iff hRules hStrict).mp
      ((syntaxAnalyser parse engine).built_of_goesOn options hKeep (hGoesOn source hMem))

end Supported

theorem scores_unknown_ignoring {unknown : BuildError}
    (hUnknown : Rules.ofDialect (.ofOptions options) = .error unknown)
    (hIgnore : options.ignoreErrors = true) (sources : List Source) :
    (syntaxAnalyser parse engine).Scores options (analyse parse (.batch sources) options engine)
      [] := by
  have hUnits : sources.filterMap ((syntaxAnalyser parse engine).unit? options) = [] := by
    refine List.filterMap_eq_nil_iff.mpr fun source _ => ?_
    have hAnswer : (syntaxAnalyser parse engine).answer options source = _ :=
      SyntaxTree.build_unknown hUnknown
    rw [unit?, hAnswer]
  rw [← hUnits]
  exact (syntaxAnalyser parse engine).scores_of_goesOn options fun _ _ => Or.inl hIgnore

theorem failsAt_unknown {unknown : BuildError}
    (hUnknown : Rules.ofDialect (.ofOptions options) = .error unknown)
    (hKeep : options.ignoreErrors = false) (first : Source) (rest : List Source) :
    FailsAt (analyse parse (.batch (first :: rest)) options engine) first unknown :=
  have hGivenUp : (syntaxAnalyser parse engine).GivesUpAt options [] first unknown :=
    ⟨hKeep, fun _ hMem => by simp at hMem, SyntaxTree.build_unknown hUnknown⟩
  (syntaxAnalyser parse engine).failsAt_of_givesUpAt options hGivenUp rest

/-- Options that differ in the two knobs, or in what the engine reads, ask for the same rules. -/
theorem ofDialect_of_tolerating_eq {base : Options}
    (h : (Dialect.ofOptions options).tolerating = (Dialect.ofOptions base).tolerating) :
    Rules.ofDialect (.ofOptions options) = Rules.ofDialect (.ofOptions base) := by
  rw [← Rules.ofDialect_tolerating, h, Rules.ofDialect_tolerating]

/-- **The policies tell one story.**  Let the version name an edition, and take the trees that a
tolerant build gives for the sources of a batch.  They tell the analysis under any setting of the two
knobs.  A tolerant dialect hands all of them to the engine.  A strict one hands over those without
errors if failures are ignored; if they are not, all of them, or none when one has an error: then the
analysis fails with the first error of the first such tree.  No strict dialect hands over a tree with
errors.  A version that names no edition fails every build, tolerant or not. -/
theorem analyse_policies (base : Options) (sources : List Source) :
    (NamesEdition (Dialect.ofOptions base).version → ∃ tree : Source → SyntaxTree,
      (∀ source, SyntaxTree.build parse source.code (Dialect.ofOptions base).tolerating =
        .ok (tree source)) ∧
      ∀ options, (Dialect.ofOptions options).tolerating = (Dialect.ofOptions base).tolerating →
        let run := analyse parse (.batch sources) options engine
        let Handed := (syntaxAnalyser parse engine).Scores options run
        let tolerant := (Dialect.ofOptions options).isTolerant
        (tolerant = true → Handed (unitsOf tree sources)) ∧
        (tolerant = false → options.ignoreErrors = false →
          (scorings run.effects ≠ [] ↔ ∀ source ∈ sources, (tree source).errors = []) ∧
          ((∀ source ∈ sources, (tree source).errors = []) → Handed (unitsOf tree sources)) ∧
          ∀ before source after first rest, sources = before ++ source :: after →
            (∀ earlier ∈ before, (tree earlier).errors = []) →
            (tree source).errors = first :: rest → FailsAt run source first) ∧
        (tolerant = false → options.ignoreErrors = true →
          Handed ((unitsOf tree sources).filter fun unit => unit.tree.errors.isEmpty))) ∧
    (∀ options, (Dialect.ofOptions options).isTolerant = false → ∀ units walker asked,
      .scoreBatch units walker asked ∈ (analyse parse (.batch sources) options engine).effects →
      ∀ unit ∈ units, unit.tree.errors = []) ∧
    (¬NamesEdition (Dialect.ofOptions base).version →
      ∃ version, (Dialect.ofOptions base).version = some version ∧
      ∀ options, (Dialect.ofOptions options).tolerating = (Dialect.ofOptions base).tolerating →
        let run := analyse parse (.batch sources) options engine
        let Handed := (syntaxAnalyser parse engine).Scores options run
        (∀ code, SyntaxTree.build parse code (.ofOptions options) =
          .error (.unknownVersion version)) ∧
        (options.ignoreErrors = true ∨ sources = [] → Handed []) ∧
        (options.ignoreErrors = false → ∀ first rest, sources = first :: rest →
          FailsAt run first (.unknownVersion version))) := by
  refine ⟨?_, ?_, ?_⟩
  · intro hEdition
    obtain ⟨rules, hBase⟩ := Rules.ofDialect_of_namesEdition hEdition
    refine ⟨fun source => .checked parse rules source.code, ?_, ?_⟩
    · intro source
      rw [← Rules.ofDialect_tolerating] at hBase
      exact SyntaxTree.build_tolerant hBase rfl
    intro options hSame run Handed tolerant
    have hRules : Rules.ofDialect (.ofOptions options) = .ok rules := by
      rw [ofDialect_of_tolerating_eq options hSame, hBase]
    refine ⟨?_, ?_, ?_⟩
    · intro hTolerant
      exact scores_tolerant engine hRules hTolerant sources
    · intro hStrict hKeep
      refine ⟨⟨?_, ?_⟩, ?_, ?_⟩
      · exact errors_nil_of_scored engine hRules hStrict hKeep
      · intro hNone
        rw [(scores_of_errors_nil engine hRules hNone).asked]
        exact List.cons_ne_nil _ _
      · exact scores_of_errors_nil engine hRules
      · intro before source after first rest hSources hBefore hErrors
        subst hSources
        exact failsAt_of_errors_cons engine hRules hStrict hKeep hBefore hErrors after
    · intro hStrict hIgnore
      exact scores_ignoring engine hRules hStrict hIgnore sources
  · intro options hStrict units walker asked hScored unit hMem
    obtain ⟨source, _, hTree⟩ :=
      (syntaxAnalyser parse engine).built_of_scored options hScored unit hMem
    exact SyntaxTree.errors_of_build_strict hStrict hTree
  · intro hEdition
    obtain ⟨version, hVersion, hYear⟩ := yearOf_of_not_namesEdition hEdition
    refine ⟨version, hVersion, ?_⟩
    intro options hSame run Handed
    have hUnknown : Rules.ofDialect (.ofOptions options) = .error (.unknownVersion version) := by
      rw [ofDialect_of_tolerating_eq options hSame, Rules.ofDialect, hYear]
      rfl
    refine ⟨fun code => SyntaxTree.build_unknown hUnknown, ?_, ?_⟩
    · rintro (hIgnore | rfl)
      · exact scores_unknown_ignoring parse engine options hUnknown hIgnore sources
      · exact (syntaxAnalyser parse engine).scores_of_goesOn options fun _ hMem => by cases hMem
    · intro hKeep first rest hSources
      subst hSources
      exact failsAt_unknown parse engine options hUnknown hKeep first rest

/-- A parser for which a question mark is a fault and everything else a program. -/
def faultAtQuestionMark : Parser := fun _ code =>
  .mk { kind := "program", error := code == "?", start := 0, stop := 1 } []

/-- An engine that counts the units of a batch. -/
def unitCount : Engine SyntaxTree Walk.Walker Nat :=
  ⟨fun units _ _ => .ok units.length, fun _ _ _ => .ok 1⟩

/-- A batch with one fault under each policy, and under a version that does not exist. -/
theorem analyse_policies_of_fault :
    let run := fun options =>
      analyse faultAtQuestionMark (.batch [⟨"a", "1"⟩, ⟨"b", "?"⟩]) options unitCount
    (run {}).result = .error (.source "b" (.malformed 1 1 0 "Unexpected token ?")) ∧
    (run { ignoreErrors := true }).result = .ok 1 ∧
    (run { language := some { tolerant := some true } }).result = .ok 2 ∧
    (run { language := some { version := some 4, tolerant := some true } }).result =
      .error (.source "a" (.unknownVersion 4)) := by
  intro run
  obtain ⟨hEdition, -, -⟩ :=
    analyse_policies faultAtQuestionMark unitCount {} [⟨"a", "1"⟩, ⟨"b", "?"⟩]
  obtain ⟨tree, hTree, hPolicies⟩ := hEdition trivial
  have hSound : (tree ⟨"a", "1"⟩).errors = [] := by
    have h : (SyntaxTree.build faultAtQuestionMark "1"
        (Dialect.ofOptions {}).tolerating).map SyntaxTree.errors = .ok [] := by
      decide +kernel
    rw [hTree ⟨"a", "1"⟩] at h
    exact Except.ok.inj h
  have hFault : (tree ⟨"b", "?"⟩).errors = [.malformed 1 1 0 "Unexpected token ?"] := by
    have h : (SyntaxTree.build faultAtQuestionMark "?"
        (Dialect.ofOptions {}).tolerating).map SyntaxTree.errors =
          .ok [.malformed 1 1 0 "Unexpected token ?"] := by
      decide +kernel
    rw [hTree ⟨"b", "?"⟩] at h
    exact Except.ok.inj h
  refine ⟨?_, ?_, ?_, ?_⟩
  · have hFails := ((hPolicies {} rfl).2.1 rfl rfl).2.2
    refine (hFails [⟨"a", "1"⟩] ⟨"b", "?"⟩ [] _ [] rfl ?_ hFault).ended
    intro earlier hMem
    obtain rfl := List.mem_singleton.mp hMem
    exact hSound
  · rw [((hPolicies { ignoreErrors := true } rfl).2.2 rfl rfl).ended]
    simp [syntaxAnalyser, unitCount, unitsOf, hSound, hFault, Except.mapError]
  · rw [((hPolicies { language := some { tolerant := some true } } rfl).1 rfl).ended]
    rfl
  · obtain ⟨-, -, hUnknown⟩ := analyse_policies faultAtQuestionMark unitCount
      { language := some { version := some 4 } } [⟨"a", "1"⟩, ⟨"b", "?"⟩]
    obtain ⟨version, hVersion, hFails⟩ := hUnknown (by decide)
    obtain rfl := Option.some.inj hVersion
    exact ((hFails { language := some { version := some 4, tolerant := some true } } rfl).2.2
      rfl _ _ rfl).ended

end Policies

end ScriptAnalysis
