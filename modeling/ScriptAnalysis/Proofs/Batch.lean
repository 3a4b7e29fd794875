import ScriptAnalysis.Analysis.Analyser

/-!
# What is seen of a batch

A batch is analysed one source after the other.  `GivesUpAt` says that failures are not ignored and
that a source is the first one the builder rejects; a source `GoesOn` when it does not end the
analysis.  Every batch does one or the other (`givesUpAt_or_goesOn`), and this decides all that is
seen of it.

* `analyseBatch_of_givesUpAt`: nothing is seen of the sources after the one that is rejected, and
  the engine is not asked.
* `analyseBatch_of_goesOn`: a trace of each source in order, then one question to the engine about
  the units of the sources that were built.
* `analyse_batch_trace`: the two together, with what the builder is asked, what the engine is
  asked, and the log read off.
-/

namespace ScriptAnalysis

namespace Run

variable {T W α β : Type}

/-! ### Reading effects -/

@[simp] theorem builds_append (a b : List (Effect T W)) :
    builds (a ++ b) = builds a ++ builds b := List.filterMap_append

@[simp] theorem scorings_append (a b : List (Effect T W)) :
    scorings (a ++ b) = scorings a ++ scorings b := List.filter_append ..

@[simp] theorem logLines_append (a b : List (Effect T W)) :
    logLines (a ++ b) = logLines a ++ logLines b := List.filterMap_append

@[simp] theorem builds_log (line : LogLine) (rest : List (Effect T W)) :
    builds (.log line :: rest) = builds rest := rfl

@[simp] theorem scorings_log (line : LogLine) (rest : List (Effect T W)) :
    scorings (.log line :: rest) = scorings rest := rfl

@[simp] theorem logLines_log (line : LogLine) (rest : List (Effect T W)) :
    logLines (.log line :: rest) = line :: logLines rest := rfl

@[simp] theorem builds_build (code : String) (dialect : Dialect) (rest : List (Effect T W)) :
    builds (.build code dialect :: rest) = (code, dialect) :: builds rest := rfl

@[simp] theorem scorings_build (code : String) (dialect : Dialect) (rest : List (Effect T W)) :
    scorings (.build code dialect :: rest) = scorings rest := rfl

@[simp] theorem logLines_build (code : String) (dialect : Dialect) (rest : List (Effect T W)) :
    logLines (.build code dialect :: rest) = logLines rest := rfl

@[simp] theorem builds_scoreBatch (units : List (Parsed T)) (walker : W) (options : Options)
    (rest : List (Effect T W)) : builds (.scoreBatch units walker options :: rest) = builds rest :=
  rfl

@[simp] theorem scorings_scoreBatch (units : List (Parsed T)) (walker : W) (options : Options)
    (rest : List (Effect T W)) :
    scorings (.scoreBatch units walker options :: rest) =
      .scoreBatch units walker options :: scorings rest := rfl

@[simp] theorem logLines_scoreBatch (units : List (Parsed T)) (walker : W) (options : Options)
    (rest : List (Effect T W)) :
    logLines (.scoreBatch units walker options :: rest) = logLines rest := rfl

@[simp] theorem builds_nil : builds ([] : List (Effect T W)) = [] := rfl

@[simp] theorem scorings_nil : scorings ([] : List (Effect T W)) = [] := rfl

@[simp] theorem logLines_nil : logLines ([] : List (Effect T W)) = [] := rfl

theorem builds_flatMap (items : List α) (f : α → List (Effect T W)) :
    builds (items.flatMap f) = items.flatMap fun item => builds (f item) := by
  rw [builds, List.filterMap_flatMap]; rfl

theorem scorings_flatMap (items : List α) (f : α → List (Effect T W)) :
    scorings (items.flatMap f) = items.flatMap fun item => scorings (f item) := by
  rw [scorings, List.filter_flatMap]; rfl

theorem logLines_flatMap (items : List α) (f : α → List (Effect T W)) :
    logLines (items.flatMap f) = items.flatMap fun item => logLines (f item) := by
  rw [logLines, List.filterMap_flatMap]; rfl

end Run

namespace Analyser

open Run (builds scorings logLines)

variable {T W R : Type}

/-! ### One source -/

/-- What the builder answers for a source. -/
def answer (analyser : Analyser T W R) (options : Options) (source : Source) :
    Except BuildError T := analyser.builder source.code (.ofOptions options)

/-- The unit of a source, if it can be built. -/
def unit? (analyser : Analyser T W R) (options : Options) (source : Source) : Option (Parsed T) :=
  match analyser.answer options source with
  | .ok tree => some ⟨source.path, tree⟩
  | .error _ => none

/-- What is logged of a source that does not end the analysis. -/
def line (analyser : Analyser T W R) (options : Options) (source : Source) : LogLine :=
  match analyser.answer options source with
  | .ok _ => .parsed source.path
  | .error error => .skipped source.path error

/-- The question to the builder about a source. -/
def question (options : Options) (source : Source) : String × Dialect :=
  (source.code, .ofOptions options)

/-- What is seen of a source that does not end the analysis. -/
def trace (analyser : Analyser T W R) (options : Options) (source : Source) :
    List (Effect T W) :=
  [.build source.code (.ofOptions options), .log (analyser.line options source)]

/-- A source does not end the analysis of its batch. -/
def GoesOn (analyser : Analyser T W R) (options : Options) (source : Source) : Prop :=
  options.ignoreErrors = true ∨ ∃ tree, analyser.answer options source = .ok tree

/-- A batch that begins with some sources is given up at the next one: failures are not ignored, and
this is the first source that the builder rejects. -/
structure GivesUpAt (analyser : Analyser T W R) (options : Options) (before : List Source)
    (source : Source) (error : BuildError) : Prop where
  strict : options.ignoreErrors = false
  built : ∀ earlier ∈ before, ∃ tree, analyser.answer options earlier = .ok tree
  rejected : analyser.answer options source = .error error

variable (analyser : Analyser T W R) (options : Options)

theorem goesOn_or_rejected (source : Source) :
    analyser.GoesOn options source ∨
      options.ignoreErrors = false ∧ ∃ error, analyser.answer options source = .error error := by
  cases hIgnore : options.ignoreErrors with
  | true => exact Or.inl (Or.inl hIgnore)
  | false =>
    cases hAnswer : analyser.answer options source with
    | ok tree => exact Or.inl (Or.inr ⟨tree, hAnswer⟩)
    | error error => exact Or.inr ⟨rfl, error, rfl⟩

/-- Where failures count, a source that goes on is built. -/
theorem built_of_goesOn {source : Source} (hStrict : options.ignoreErrors = false)
    (h : analyser.GoesOn options source) : ∃ tree, analyser.answer options source = .ok tree := by
  rcases h with hIgnore | hTree
  · rw [hStrict] at hIgnore
    cases hIgnore
  · exact hTree

/-- No batch is given up where failures are ignored. -/
theorem not_givesUpAt_of_ignoring (hIgnore : options.ignoreErrors = true) (sources : List Source) :
    ¬∃ before source after error, sources = before ++ source :: after ∧
      analyser.GivesUpAt options before source error := by
  rintro ⟨before, source, after, error, -, h⟩
  have hStrict := h.strict
  rw [hIgnore] at hStrict
  cases hStrict

theorem buildSource_of_goesOn {source : Source} (h : analyser.GoesOn options source) :
    analyser.buildSource options source =
      ⟨analyser.trace options source, .ok (analyser.unit? options source)⟩ := by
  rw [buildSource, askBuilder, trace, unit?, line]
  cases hAnswer : analyser.answer options source with
  | ok tree =>
    rw [answer] at hAnswer
    rw [hAnswer]
    rfl
  | error error =>
    rcases h with hIgnore | ⟨tree, hTree⟩
    · rw [answer] at hAnswer
      rw [hAnswer, hIgnore]
      rfl
    · rw [hAnswer] at hTree
      cases hTree

theorem buildSource_of_rejected {source : Source} {error : BuildError}
    (hStrict : options.ignoreErrors = false)
    (hRejected : analyser.answer options source = .error error) :
    analyser.buildSource options source =
      ⟨[.build source.code (.ofOptions options)], .error (.source source.path error)⟩ := by
  rw [buildSource, askBuilder]
  rw [answer] at hRejected
  rw [hRejected, hStrict]
  rfl

/-! ### All sources of a batch -/

/-- Sources that go on leave their traces and their units, one after the other. -/
theorem buildSources_of_goesOn : ∀ sources : List Source,
    (∀ source ∈ sources, analyser.GoesOn options source) →
    analyser.buildSources options sources =
      ⟨sources.flatMap (analyser.trace options),
        .ok (sources.filterMap (analyser.unit? options))⟩ := by
  intro sources
  induction sources with
  | nil => intro _; rfl
  | cons source rest ih =>
    intro h
    have hFirst := analyser.buildSource_of_goesOn options (h source (by simp))
    have hRest := ih fun later hMem => h later (by simp [hMem])
    rw [buildSources, hFirst, hRest, Run.bind_ok, Run.bind_ok, List.flatMap_cons,
      List.filterMap_cons]
    cases analyser.unit? options source <;> simp

/-- The first source that is rejected ends the batch. -/
theorem buildSources_of_givesUpAt {source : Source} {error : BuildError} (after : List Source) :
    ∀ before : List Source, analyser.GivesUpAt options before source error →
    analyser.buildSources options (before ++ source :: after) =
      ⟨before.flatMap (analyser.trace options) ++ [.build source.code (.ofOptions options)],
        .error (.source source.path error)⟩ := by
  intro before
  induction before with
  | nil =>
    intro h
    rw [List.nil_append, buildSources, analyser.buildSource_of_rejected options h.strict h.rejected,
      Run.bind_error]
    rfl
  | cons first rest ih =>
    intro h
    have hFirst := analyser.buildSource_of_goesOn options (Or.inr (h.built first (by simp)))
    have hRest := ih ⟨h.strict, fun earlier hMem => h.built earlier (by simp [hMem]), h.rejected⟩
    rw [List.cons_append, buildSources, hFirst, hRest, Run.bind_ok, Run.bind_error,
      List.flatMap_cons, List.append_assoc]

/-- **A batch is given up at its first rejected source, or all its sources go on.** -/
theorem givesUpAt_or_goesOn : ∀ sources : List Source,
    (∃ before source after error, sources = before ++ source :: after ∧
      analyser.GivesUpAt options before source error) ∨
    ∀ source ∈ sources, analyser.GoesOn options source := by
  intro sources
  induction sources with
  | nil => exact Or.inr fun source hMem => by simp at hMem
  | cons first rest ih =>
    rcases analyser.goesOn_or_rejected options first with hFirst | ⟨hStrict, error, hRejected⟩
    · rcases ih with ⟨before, source, after, error, rfl, h⟩ | hRest
      · refine Or.inl ⟨first :: before, source, after, error, rfl, h.strict, ?_, h.rejected⟩
        intro earlier hMem
        rcases List.mem_cons.mp hMem with rfl | hMem
        · exact analyser.built_of_goesOn options h.strict hFirst
        · exact h.built earlier hMem
      · exact Or.inr (List.forall_mem_cons.mpr ⟨hFirst, hRest⟩)
    · exact Or.inl ⟨[], first, rest, error, rfl, hStrict, fun _ hMem => by simp at hMem, hRejected⟩

/-! ### Scoring -/

/-- What is seen when the units of a batch are handed to the engine. -/
def scoreTrace (total : Nat) (units : List (Parsed T)) : List (Effect T W) :=
  (if units.length < total then [.log (.scoring units.length total)] else []) ++
    [.scoreBatch units analyser.walker options]

/-- The engine's answer for the units of a batch. -/
def verdict (units : List (Parsed T)) : Except AnalysisError R :=
  (analyser.engine.scoreBatch units analyser.walker options).mapError .scoring

theorem score_eq (total : Nat) (units : List (Parsed T)) :
    analyser.score options total units =
      ⟨analyser.scoreTrace options total units, analyser.verdict options units⟩ := by
  rw [score, scoreTrace, verdict]
  cases analyser.engine.scoreBatch units analyser.walker options with
  | ok report => split <;> rfl
  | error message => split <;> rfl

/-! ### The whole batch -/

/-- A batch once its sources have been built: it fails as the builds did, or the units are handed to
the engine. -/
def finish (first : LogLine) (total : Nat) (built : Run T W (List (Parsed T))) : Run T W R :=
  match built.result with
  | .error error => ⟨.log first :: built.effects, .error error⟩
  | .ok units =>
    ⟨.log first :: (built.effects ++ analyser.scoreTrace options total units),
      analyser.verdict options units⟩

theorem finish_eq (first : LogLine) (total : Nat) (built : Run T W (List (Parsed T))) :
    (Run.log first >>= fun _ => built >>= fun units => analyser.score options total units) =
      analyser.finish options first total built := by
  obtain ⟨effects, error | units⟩ := built
  · rfl
  · rw [Run.bind_ok, score_eq]
    rfl

theorem analyseBatch_eq (sources : List Source) :
    analyser.analyseBatch options sources =
      analyser.finish options (.analysing sources.length) sources.length
        (analyser.buildSources options sources) :=
  analyser.finish_eq options _ _ _

theorem analyseBatch_of_goesOn {sources : List Source}
    (h : ∀ source ∈ sources, analyser.GoesOn options source) :
    analyser.analyseBatch options sources =
      ⟨.log (.analysing sources.length) :: (sources.flatMap (analyser.trace options) ++
          analyser.scoreTrace options sources.length (sources.filterMap (analyser.unit? options))),
        analyser.verdict options (sources.filterMap (analyser.unit? options))⟩ := by
  rw [analyseBatch_eq, analyser.buildSources_of_goesOn options sources h]
  rfl

theorem analyseBatch_of_givesUpAt {before : List Source} {source : Source} {error : BuildError}
    (h : analyser.GivesUpAt options before source error) (after : List Source) :
    analyser.analyseBatch options (before ++ source :: after) =
      ⟨.log (.analysing (before ++ source :: after).length) ::
          (before.flatMap (analyser.trace options) ++ [.build source.code (.ofOptions options)]),
        .error (.source source.path error)⟩ := by
  rw [analyseBatch_eq, analyser.buildSources_of_givesUpAt options after before h]
  rfl

/-! ### Reading the traces -/

theorem builds_traces (sources : List Source) :
    builds (sources.flatMap (analyser.trace options)) = sources.map (question options) := by
  rw [Run.builds_flatMap, List.map_eq_flatMap]
  rfl

theorem scorings_traces (sources : List Source) :
    scorings (sources.flatMap (analyser.trace options)) = [] := by
  rw [Run.scorings_flatMap]
  exact List.flatMap_eq_nil_iff.mpr fun _ _ => rfl

theorem logLines_traces (sources : List Source) :
    logLines (sources.flatMap (analyser.trace options)) = sources.map (analyser.line options) := by
  rw [Run.logLines_flatMap, List.map_eq_flatMap]
  rfl

/-- What is logged of sources that were built. -/
theorem lines_of_built {sources : List Source}
    (h : ∀ source ∈ sources, ∃ tree, analyser.answer options source = .ok tree) :
    sources.map (analyser.line options) = sources.map fun source => .parsed source.path := by
  refine List.map_congr_left fun source hMem => ?_
  obtain ⟨tree, hTree⟩ := h source hMem
  rw [line, hTree]

@[simp] theorem builds_scoreTrace (total : Nat) (units : List (Parsed T)) :
    builds (analyser.scoreTrace options total units) = [] := by
  rw [scoreTrace]; split <;> rfl

@[simp] theorem scorings_scoreTrace (total : Nat) (units : List (Parsed T)) :
    scorings (analyser.scoreTrace options total units) =
      [.scoreBatch units analyser.walker options] := by
  rw [scoreTrace]; split <;> rfl

@[simp] theorem logLines_scoreTrace (total : Nat) (units : List (Parsed T)) :
    logLines (analyser.scoreTrace options total units) =
      if units.length < total then [.scoring units.length total] else [] := by
  rw [scoreTrace]; split <;> rfl

/-- The builder is asked about an initial part of the batch, in order. -/
theorem builds_analyseBatch_prefix (sources : List Source) :
    builds (analyser.analyseBatch options sources).effects <+:
      sources.map (question options) := by
  rcases analyser.givesUpAt_or_goesOn options sources with
    ⟨before, source, after, error, rfl, h⟩ | h
  · rw [analyser.analyseBatch_of_givesUpAt options h]
    refine ⟨after.map (question options), ?_⟩
    simp [builds_traces, question]
  · rw [analyser.analyseBatch_of_goesOn options h]
    refine ⟨[], ?_⟩
    simp [builds_traces]

/-! ### The trace of a batch -/

/-- **The trace of a batch.**  A batch that is given up at a source has asked the builder about the
sources before it and about that one, never the engine, and fails with the path of the source.  Any
other batch has asked the builder about every source, then the engine once about those that were
built, and ends in the engine's answer.  The builder is told the same dialect each time: the language
options as they are, with locations. -/
theorem analyse_batch_trace (sources : List Source) :
    (∀ before source after error, sources = before ++ source :: after →
      analyser.GivesUpAt options before source error →
      let run := analyser.analyse options (.batch sources)
      run.effects = .log (.analysing sources.length) ::
        (before.flatMap (analyser.trace options) ++ [.build source.code (.ofOptions options)]) ∧
      builds run.effects = (before ++ [source]).map (question options) ∧
      scorings run.effects = [] ∧
      logLines run.effects =
        .analysing sources.length :: before.map (fun earlier => .parsed earlier.path) ∧
      ∃ failure, run.result = .error failure ∧ failure = .source source.path error ∧
        failure.message = source.path ++ ": " ++ error.message ∧
        failure.buildError? = some error) ∧
    ((¬∃ before source after error, sources = before ++ source :: after ∧
        analyser.GivesUpAt options before source error) →
      let run := analyser.analyse options (.batch sources)
      let units := sources.filterMap (analyser.unit? options)
      run.effects = .log (.analysing sources.length) ::
        (sources.flatMap (analyser.trace options) ++
          ((if units.length < sources.length then
              [.log (.scoring units.length sources.length)] else []) ++
            [.scoreBatch units analyser.walker options])) ∧
      builds run.effects = sources.map (question options) ∧
      scorings run.effects = [.scoreBatch units analyser.walker options] ∧
      logLines run.effects = .analysing sources.length ::
        (sources.map (analyser.line options) ++
          if units.length < sources.length then [.scoring units.length sources.length] else []) ∧
      run.result =
        (analyser.engine.scoreBatch units analyser.walker options).mapError .scoring) ∧
    ∀ asked ∈ builds (analyser.analyse options (.batch sources)).effects,
      asked.2 = .ofOptions options ∧ asked.2.locations = true ∧
      asked.2.version = options.language.bind LanguageOptions.version ∧
      asked.2.sourceType = options.language.bind LanguageOptions.sourceType ∧
      asked.2.tolerant = options.language.bind LanguageOptions.tolerant ∧
      asked.2.features = options.language.bind LanguageOptions.features := by
  refine ⟨?_, ?_, ?_⟩
  · intro before source after error hSources h run
    subst hSources
    -- The run is known outright; with its value cleared it can be put in its place everywhere.
    have hRun : run = _ := analyser.analyseBatch_of_givesUpAt options h after
    clear_value run
    subst hRun
    refine ⟨rfl, ?_, ?_, ?_, _, rfl, rfl, rfl, rfl⟩
    · simp [builds_traces, question]
    · simp [scorings_traces]
    · simp [logLines_traces, analyser.lines_of_built options h.built]
  · intro hOther run units
    rcases analyser.givesUpAt_or_goesOn options sources with hGivenUp | h
    · exact absurd hGivenUp hOther
    have hRun : run = _ := analyser.analyseBatch_of_goesOn options h
    clear_value run
    subst hRun
    refine ⟨rfl, ?_, ?_, ?_, rfl⟩
    · simp [builds_traces]
    · simp [scorings_traces, units]
    · simp [logLines_traces, units]
  · intro asked hAsked
    have hMem := (analyser.builds_analyseBatch_prefix options sources).subset hAsked
    obtain ⟨source, _, rfl⟩ := List.mem_map.mp hMem
    exact ⟨rfl, rfl, rfl, rfl, rfl, rfl⟩

/-- An analyser that rejects empty codes unless the dialect is tolerant, takes any other code for its own
tree, and counts the units of a batch. -/
def counting : Analyser String Unit Nat where
  builder code dialect :=
    if code = "" ∧ dialect.isTolerant = false then .error .aborted else .ok code
  walker := ()
  engine := ⟨fun units _ _ => .ok units.length, fun _ _ _ => .ok 1⟩

theorem counting_givesUpAt : counting.GivesUpAt {} [⟨"a", "x"⟩] ⟨"b", ""⟩ .aborted := by
  refine ⟨rfl, ?_, rfl⟩
  intro earlier hMem
  obtain rfl := List.mem_singleton.mp hMem
  exact ⟨"x", rfl⟩

/-- A batch of three whose second source is empty: given up there, or scored without it, or scored as it
is where the dialect is tolerant. -/
theorem analyse_batch_trace_of_three :
    let sources : List Source := [⟨"a", "x"⟩, ⟨"b", ""⟩, ⟨"a", "x"⟩]
    let ignoring : Options := { ignoreErrors := true }
    let tolerating : Options := { language := some { tolerant := some true } }
    counting.GivesUpAt {} [⟨"a", "x"⟩] ⟨"b", ""⟩ .aborted ∧
    scorings (counting.analyse {} (.batch sources)).effects = [] ∧
    (counting.analyse {} (.batch sources)).result = .error (.source "b" .aborted) ∧
    scorings (counting.analyse ignoring (.batch sources)).effects =
      [.scoreBatch [⟨"a", "x"⟩, ⟨"a", "x"⟩] () ignoring] ∧
    (counting.analyse ignoring (.batch sources)).result = .ok 2 ∧
    scorings (counting.analyse tolerating (.batch sources)).effects =
      [.scoreBatch [⟨"a", "x"⟩, ⟨"b", ""⟩, ⟨"a", "x"⟩] () tolerating] ∧
    (counting.analyse tolerating (.batch sources)).result = .ok 3 ∧
    ∀ asked ∈ builds (counting.analyse tolerating (.batch sources)).effects,
      asked.2.tolerant = some true ∧ asked.2.version = none := by
  intro sources ignoring tolerating
  have hTaken : ¬∃ before source after error, sources = before ++ source :: after ∧
      counting.GivesUpAt tolerating before source error := by
    rintro ⟨before, source, after, error, -, h⟩
    have hTree : counting.answer tolerating source = .ok source.code :=
      if_neg fun hRejected => Bool.false_ne_true hRejected.2.symm
    rw [h.rejected] at hTree
    cases hTree
  obtain ⟨_, _, hUnscored, _, failure, hFailure, rfl, _⟩ :=
    (analyse_batch_trace counting {} sources).1 _ _ _ _ rfl counting_givesUpAt
  obtain ⟨_, _, hScored, _, hResult⟩ :=
    (analyse_batch_trace counting ignoring sources).2.1
      (counting.not_givesUpAt_of_ignoring _ rfl _)
  obtain ⟨_, hTolerant, hAsked⟩ := analyse_batch_trace counting tolerating sources
  obtain ⟨_, _, hAllScored, _, hAllResult⟩ := hTolerant hTaken
  refine ⟨counting_givesUpAt, hUnscored, hFailure, hScored, hResult, hAllScored, hAllResult, ?_⟩
  intro asked hMem
  obtain ⟨-, -, hVersion, -, hTolerance, -⟩ := hAsked asked hMem
  exact ⟨hTolerance, hVersion⟩

end Analyser

end ScriptAnalysis
