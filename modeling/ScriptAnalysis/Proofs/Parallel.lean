import Mathlib.Data.List.Perm.Subperm
import ScriptAnalysis.Proofs.Batch

/-!
# A batch built side by side

The sources of a batch can be built in any order.  Whatever the order, each result is found again
under the number of its source (`inOrder_runScheduled`), so what is taken up is what builds one
after the other would have given, the first failure in the order of the batch included
(`buildSourcesParallel_eq`).  The effects are those of all sources, in the order of the schedule
(`runScheduled_effects`).

* `analyseParallel_agrees`: the same result and the same question to the engine under every
  schedule; the builder is asked about every source.
-/

namespace ScriptAnalysis

namespace Analyser

open Run (builds scorings logLines)

variable {T W R α β : Type}

/-! ### Results under their numbers -/

theorem map_getElem?_range (items : List α) :
    (List.range items.length).map (items[·]?) = items.map some := by
  refine List.ext_getElem (by simp) fun i h _ => ?_
  have hLess : i < items.length := by simpa using h
  simp [hLess]

/-- The result of a task that was done is found under its number. -/
theorem lookup_finished {tasks : List α} (f : α → β) {i : Nat} {task : α}
    (hTask : tasks[i]? = some task) : ∀ order : List Nat, i ∈ order →
    (order.filterMap fun j => tasks[j]?.map fun task => (j, f task)).lookup i = some (f task) := by
  intro order
  induction order with
  | nil => intro h; simp at h
  | cons j rest ih =>
    intro h
    by_cases hHead : i = j
    · subst hHead
      simp [hTask]
    · have hRest := ih ((List.mem_cons.mp h).resolve_left hHead)
      rw [List.filterMap_cons]
      cases tasks[j]? with
      | none => exact hRest
      | some other =>
        rw [Option.map_some, List.lookup_cons, beq_false_of_ne hHead]
        exact hRest

/-- **Results are taken up in the order of the tasks**, whatever the order they were done in. -/
theorem inOrder_runScheduled (tasks : List (Run T W α)) {order : List Nat}
    (hPerm : order.Perm (List.range tasks.length)) :
    inOrder tasks.length (runScheduled tasks order).2 = tasks.map Run.result := by
  have hLookup : ∀ i ∈ List.range tasks.length,
      (runScheduled tasks order).2.lookup i = tasks[i]?.map Run.result := by
    intro i hMem
    have hLess : i < tasks.length := List.mem_range.mp hMem
    have hTask : tasks[i]? = some tasks[i] := List.getElem?_eq_getElem hLess
    rw [hTask, Option.map_some]
    exact lookup_finished Run.result hTask order (hPerm.mem_iff.mpr hMem)
  calc inOrder tasks.length (runScheduled tasks order).2
      = (List.range tasks.length).filterMap fun i => tasks[i]?.map Run.result :=
        List.filterMap_congr hLookup
    _ = ((List.range tasks.length).map (tasks[·]?)).filterMap (Option.map Run.result) := by
        rw [List.filterMap_map]; rfl
    _ = tasks.map Run.result := by
        rw [map_getElem?_range, List.filterMap_map, ← List.filterMap_eq_map]
        rfl

/-- The effects are those of all tasks, each task's once. -/
theorem runScheduled_effects (tasks : List (Run T W α)) {order : List Nat}
    (hPerm : order.Perm (List.range tasks.length)) :
    (runScheduled tasks order).1.Perm (tasks.flatMap Run.effects) := by
  have hInOrder : (List.range tasks.length).flatMap (fun i => (tasks[i]?.map Run.effects).getD []) =
      tasks.flatMap Run.effects := by
    calc (List.range tasks.length).flatMap (fun i => (tasks[i]?.map Run.effects).getD [])
        = ((List.range tasks.length).map (tasks[·]?)).flatMap
            fun task => (task.map Run.effects).getD [] := by rw [List.flatMap_map]
      _ = tasks.flatMap Run.effects := by
          rw [map_getElem?_range, List.flatMap_map]
          rfl
  rw [← hInOrder]
  exact hPerm.flatMap_right _

/-! ### Builds side by side -/

variable (analyser : Analyser T W R) (options : Options)

/-- Builds one after the other end as their results, taken up in order, do. -/
theorem buildSources_result : ∀ sources : List Source,
    (analyser.buildSources options sources).result =
      (collect (sources.map fun source => (analyser.buildSource options source).result)).map
        fun units => units.filterMap id := by
  intro sources
  induction sources with
  | nil => rfl
  | cons source rest ih =>
    rw [buildSources, List.map_cons]
    rcases analyser.buildSource options source with ⟨effects, error | unit⟩
    · rfl
    · rw [Run.bind_ok, collect]
      revert ih
      rcases analyser.buildSources options rest with ⟨restEffects, result⟩
      intro ih
      simp only at ih
      rw [ih]
      cases collect (rest.map fun source => (analyser.buildSource options source).result) with
      | error error => rfl
      | ok units => cases unit <;> rfl

/-- **Builds side by side end as builds one after the other**, with the effects of all sources. -/
theorem buildSourcesParallel_eq (sources : List Source) (schedule : Schedule sources.length) :
    ∃ effects : List (Effect T W),
      effects.Perm (sources.flatMap fun source => (analyser.buildSource options source).effects) ∧
      analyser.buildSourcesParallel options sources schedule =
        ⟨effects, (analyser.buildSources options sources).result⟩ := by
  let tasks := sources.map (analyser.buildSource options)
  have hLength : tasks.length = sources.length := List.length_map ..
  have hPerm : schedule.order.Perm (List.range tasks.length) := by
    rw [hLength]; exact schedule.perm
  refine ⟨(runScheduled tasks schedule.order).1, ?_, ?_⟩
  · have hEffects := runScheduled_effects tasks hPerm
    rwa [List.flatMap_map] at hEffects
  · have hResults := inOrder_runScheduled tasks hPerm
    rw [hLength, List.map_map] at hResults
    rw [buildSources_result, buildSourcesParallel]
    exact congrArg (Run.mk _) (congrArg _ (congrArg collect hResults))

/-! ### What is seen of one source, whatever comes of it -/

/-- The builder is asked about a source once. -/
theorem builds_buildSource (source : Source) :
    builds (analyser.buildSource options source).effects = [question options source] := by
  rcases analyser.goesOn_or_rejected options source with h | ⟨hStrict, error, hRejected⟩
  · rw [analyser.buildSource_of_goesOn options h]; rfl
  · rw [analyser.buildSource_of_rejected options hStrict hRejected]; rfl

/-- The engine is not asked about a source by itself. -/
theorem scorings_buildSource (source : Source) :
    scorings (analyser.buildSource options source).effects = [] := by
  rcases analyser.goesOn_or_rejected options source with h | ⟨hStrict, error, hRejected⟩
  · rw [analyser.buildSource_of_goesOn options h]; rfl
  · rw [analyser.buildSource_of_rejected options hStrict hRejected]; rfl

theorem scorings_buildSources (sources : List Source) :
    scorings (analyser.buildSources options sources).effects = [] := by
  rcases analyser.givesUpAt_or_goesOn options sources with
    ⟨before, source, after, error, rfl, h⟩ | h
  · rw [analyser.buildSources_of_givesUpAt options after before h]
    simp [scorings_traces]
  · rw [analyser.buildSources_of_goesOn options sources h]
    exact analyser.scorings_traces options sources

section Effects

variable {sources : List Source} {effects : List (Effect T W)}
  (hPerm : effects.Perm
    (sources.flatMap fun source => (analyser.buildSource options source).effects))

include hPerm

theorem builds_of_perm : (builds effects).Perm (sources.map (question options)) := by
  have h : (builds effects).Perm (builds _) := hPerm.filterMap _
  rw [Run.builds_flatMap] at h
  simpa only [builds_buildSource, ← List.map_eq_flatMap] using h

theorem scorings_of_perm : scorings effects = [] := by
  have h : (scorings effects).Perm (scorings _) := hPerm.filter _
  rw [Run.scorings_flatMap, List.flatMap_eq_nil_iff.mpr fun source _ =>
    analyser.scorings_buildSource options source] at h
  exact List.perm_nil.mp h

theorem logLines_of_perm (hGoesOn : ∀ source ∈ sources, analyser.GoesOn options source) :
    (logLines effects).Perm (sources.map (analyser.line options)) := by
  have hTraces : sources.flatMap (fun source => (analyser.buildSource options source).effects) =
      sources.flatMap (analyser.trace options) := by
    refine List.flatMap_congr fun source hMem => ?_
    rw [analyser.buildSource_of_goesOn options (hGoesOn source hMem)]
  have h : (logLines effects).Perm (logLines _) := hPerm.filterMap _
  rwa [hTraces, logLines_traces] at h

end Effects

/-! ### The whole batch -/

theorem analyseParallel_eq (sources : List Source) (schedule : Schedule sources.length) :
    analyser.analyseParallel options sources schedule =
      analyser.finish options (.analysingInParallel sources.length) sources.length
        (analyser.buildSourcesParallel options sources schedule) :=
  analyser.finish_eq options _ _ _

/-- What a batch ends in depends on what its builds end in only. -/
theorem result_finish (first first' : LogLine) (total : Nat)
    {built built' : Run T W (List (Parsed T))} (h : built.result = built'.result) :
    (analyser.finish options first total built).result =
      (analyser.finish options first' total built').result := by
  rw [finish, finish, h]
  cases built'.result <;> rfl

theorem builds_finish (first : LogLine) (total : Nat) (built : Run T W (List (Parsed T))) :
    builds (analyser.finish options first total built).effects = builds built.effects := by
  obtain ⟨effects, error | units⟩ := built <;> simp [finish]

/-- As builds ask the engine nothing, what it is asked depends on what they end in only. -/
theorem scorings_finish (first : LogLine) (total : Nat) {built : Run T W (List (Parsed T))}
    (h : scorings built.effects = []) :
    scorings (analyser.finish options first total built).effects =
      match built.result with
      | .error _ => []
      | .ok units => [.scoreBatch units analyser.walker options] := by
  obtain ⟨effects, error | units⟩ := built
  · exact h
  · simp only at h
    simp [finish, h]

theorem logLines_finish (first : LogLine) (total : Nat) (effects : List (Effect T W))
    (units : List (Parsed T)) :
    logLines (analyser.finish options first total ⟨effects, .ok units⟩).effects =
      first :: (logLines effects ++ logLines (analyser.scoreTrace options total units)) := by
  rw [finish, Run.logLines_log, Run.logLines_append]

/-- **Every schedule agrees with the batch one after the other.**  The result is the same, and so is
what the engine is asked; a batch that is given up fails with the source that is rejected first in
its own order.  The builder is asked about every source, which is what it is asked one after the
other too unless the batch is given up; and then the log is the same but for its first line and the
order. -/
theorem analyseParallel_agrees (sources : List Source) (schedule : Schedule sources.length) :
    let parallel := analyser.analyseParallel options sources schedule
    let sequential := analyser.analyseBatch options sources
    parallel.result = sequential.result ∧
    scorings parallel.effects = scorings sequential.effects ∧
    (scorings parallel.effects = [] ∨
      ∃ units, scorings parallel.effects = [.scoreBatch units analyser.walker options]) ∧
    (∀ before source after error, sources = before ++ source :: after →
      analyser.GivesUpAt options before source error →
      parallel.result = .error (.source source.path error)) ∧
    (builds parallel.effects).Perm (sources.map (question options)) ∧
    (builds sequential.effects).Subperm (builds parallel.effects) ∧
    ((¬∃ before source after error, sources = before ++ source :: after ∧
        analyser.GivesUpAt options before source error) →
      (builds sequential.effects).Perm (builds parallel.effects) ∧
      ∃ linesP linesS, logLines parallel.effects = .analysingInParallel sources.length :: linesP ∧
        logLines sequential.effects = .analysing sources.length :: linesS ∧
        linesP.Perm linesS) := by
  intro parallel sequential
  obtain ⟨effects, hPerm, hBuilt⟩ := analyser.buildSourcesParallel_eq options sources schedule
  have hParallel : parallel = _ := analyser.analyseParallel_eq options sources schedule
  have hSequential : sequential = _ := analyser.analyseBatch_eq options sources
  rw [hBuilt] at hParallel
  -- Both batches are finished in the same way, from builds with the same result.
  have hResult : parallel.result = sequential.result := by
    rw [hParallel, hSequential]
    exact analyser.result_finish options _ _ _ rfl
  have hScorings : scorings parallel.effects = scorings sequential.effects := by
    rw [hParallel, hSequential, analyser.scorings_finish options _ _
      (analyser.scorings_buildSources options sources), analyser.scorings_finish options _ _
      (analyser.scorings_of_perm options hPerm)]
  have hBuilds : (builds parallel.effects).Perm (sources.map (question options)) := by
    rw [hParallel, builds_finish]
    exact analyser.builds_of_perm options hPerm
  have hPrefix := analyser.builds_analyseBatch_prefix options sources
  refine ⟨hResult, hScorings, ?_, ?_, hBuilds, ?_, ?_⟩
  · rw [hScorings, hSequential, analyser.scorings_finish options _ _
      (analyser.scorings_buildSources options sources)]
    cases (analyser.buildSources options sources).result with
    | error error => exact Or.inl rfl
    | ok units => exact Or.inr ⟨units, rfl⟩
  · intro before source after error hSources h
    rw [hResult]
    show (analyser.analyseBatch options sources).result = _
    rw [hSources, analyser.analyseBatch_of_givesUpAt options h after]
  · exact hPrefix.sublist.subperm.trans hBuilds.symm.subperm
  · intro hOther
    rcases analyser.givesUpAt_or_goesOn options sources with hGivenUp | h
    · exact absurd hGivenUp hOther
    rw [analyser.buildSources_of_goesOn options sources h] at hParallel hSequential
    refine ⟨?_, ?_⟩
    · rw [hSequential, builds_finish, builds_traces]
      exact hBuilds.symm
    · rw [hParallel, hSequential, logLines_finish, logLines_finish, logLines_traces]
      refine ⟨_, _, rfl, rfl, ?_⟩
      exact (analyser.logLines_of_perm options hPerm h).append_right _

/-- A batch of three whose last source is built first. -/
theorem analyseParallel_agrees_of_three :
    let sources : List Source := [⟨"a", "x"⟩, ⟨"b", ""⟩, ⟨"c", ""⟩]
    let schedule : Schedule sources.length := ⟨[2, 0, 1], by decide⟩
    counting.GivesUpAt {} [⟨"a", "x"⟩] ⟨"b", ""⟩ .aborted ∧
    (counting.analyseParallel {} sources schedule).result = .error (.source "b" .aborted) ∧
    (builds (counting.analyseBatch { ignoreErrors := true } sources).effects).Perm
      (builds (counting.analyseParallel { ignoreErrors := true } sources schedule).effects) := by
  intro sources schedule
  obtain ⟨-, -, -, hStrict, -⟩ := analyseParallel_agrees counting {} sources schedule
  obtain ⟨-, -, -, -, -, -, hKept⟩ :=
    analyseParallel_agrees counting { ignoreErrors := true } sources schedule
  have hIgnoring := counting.not_givesUpAt_of_ignoring { ignoreErrors := true } rfl sources
  exact ⟨counting_givesUpAt, hStrict _ _ _ _ rfl counting_givesUpAt, (hKept hIgnoring).1⟩

end Analyser

end ScriptAnalysis
