import ScriptAnalysis.Proofs.Sightings

/-!
# Why a node is too new, and where that is reported

What year a node's syntax is of and where the node is reported are two tables that do not know of
each other.  `reasons` lists what of a node may be new, each reason with its year and with the
offsets of the token that shows it, and so ties the two together.

* `introduced?_eq_max?`: a node's year is the latest of its reasons'.
* `index_mem_places`: a node is reported at each of its reasons, but for the waiting of a loop and
  the asynchrony of a function.
* `tooNew_reported_at_reason`: so a node that is too new is reported at a reason that is newer than
  the edition, unless all that is newer is an `await` or an `async`.  Then it may be reported at the
  `of` of the loop, after the name of the method or at the first token of the function.
-/

namespace ScriptAnalysis

open Syntax (Cursor Node functionKinds opensFunction)
open Text (Token)

namespace Rules

/-! ### Reasons -/

/-- What of a node an edition may not have yet. -/
inductive Novelty where
  /-- A loop goes over values. -/
  | values
  /-- A loop waits for its values. -/
  | awaiting
  /-- A function is asynchronous. -/
  | asynchrony
  | operator
  /-- A method of an object literal is no accessor. -/
  | method
  /-- The node is of a kind that is of one edition whatever it holds. -/
  | form
  deriving DecidableEq, Repr

/-- A reason why a node's syntax is of an edition: the edition's year, and the byte offsets that
point at the reason. -/
structure Reason where
  novelty : Novelty
  year : Nat
  places : List Nat
  deriving DecidableEq, Repr

/-- A loop goes over values if it has an `of`, and waits for them if it has an `await`. -/
def loopReasons (node : Node) : List Reason :=
  ((node.childOfKind? "of").map fun token => ⟨.values, 2015, [token.start]⟩).toList ++
    ((node.childOfKind? "await").map fun token => ⟨.awaiting, 2018, [token.start]⟩).toList

/-- An operator is new where it is in the table. -/
def operatorReasons (years : List (String × Nat)) (text : List Char) (node : Node) : List Reason :=
  match node.childOf? "operator", years.lookup (operatorText text node) with
  | some operator, some year => [⟨.operator, year, [operator.start]⟩]
  | _, _ => []

/-- What may be new in a node's form, its being asynchronous apart. -/
def formReasons (text : List Char) (ancestors : List Node) (node : Node) : List Reason :=
  match node.kind with
  | "for_in_statement" => loopReasons node
  | "method_definition" =>
    if isPlainMethod ancestors node then
      [⟨.method, 2015, [(Offence.afterChild node "name").index text]⟩]
    else []
  | "binary_expression" => operatorReasons binaryYears text node
  | "augmented_assignment_expression" => operatorReasons assignmentYears text node
  | kind =>
    ((kindYears.lookup kind).map fun year =>
      ⟨.form, year, [(Offence.ofNode node).index text]⟩).toList

/-- A function is asynchronous if it has an `async`; both that and the token behind it point at
this. -/
def asyncReasons (text : List Char) (node : Node) : List Reason :=
  if opensFunction node.kind then
    ((node.childOfKind? "async").map fun token =>
      ⟨.asynchrony, 2017, [token.start, (Token.atOffset text token.stop).start]⟩).toList
  else []

/-- All that may be new in a node. -/
def reasons (text : List Char) (ancestors : List Node) (node : Node) : List Reason :=
  formReasons text ancestors node ++ asyncReasons text node

variable {text : List Char} {ancestors : List Node} {node : Node} {reason : Reason}

/-! ### The year of a node -/

theorem max?_loopReasons (node : Node) :
    ((loopReasons node).map Reason.year).max? =
      if node.hasChild "await" then some 2018
      else if node.hasChild "of" then some 2015
      else none := by
  rw [loopReasons, Node.hasChild, Node.hasChild]
  cases node.childOfKind? "await" <;> cases node.childOfKind? "of" <;> rfl

/-- An operator has a year just when the table has it; there is none without an operator. -/
theorem max?_operatorReasons (years : List (String × Nat)) (hEmpty : years.lookup "" = none)
    (text : List Char) (node : Node) :
    ((operatorReasons years text node).map Reason.year).max? =
      years.lookup (operatorText text node) := by
  rw [operatorReasons]
  cases hOperator : node.childOf? "operator" with
  | none =>
    rw [operatorText, hOperator]
    exact hEmpty.symm
  | some operator => cases years.lookup (operatorText text node) <;> rfl

/-- A form that is of one edition whatever it holds has the year of that edition. -/
theorem max?_form (year? : Option Nat) (places : List Nat) :
    ((year?.map fun year => (⟨.form, year, places⟩ : Reason)).toList.map Reason.year).max? =
      year? := by
  cases year? <;> rfl

theorem max?_formReasons (text : List Char) (ancestors : List Node) (node : Node) :
    ((formReasons text ancestors node).map Reason.year).max? = formYear? text ancestors node := by
  have hBinary := max?_operatorReasons binaryYears (by decide) text node
  have hAssignment := max?_operatorReasons assignmentYears (by decide) text node
  rw [formReasons, formYear?]
  -- Both are tables by kind, with the same rows.
  generalize node.kind = kind
  split
  · exact max?_loopReasons node
  · cases isPlainMethod ancestors node <;> rfl
  · exact hBinary
  · exact hAssignment
  · exact (max?_form _ _).trans (by simp)

theorem max?_concat (years : List Nat) (year : Nat) :
    (years ++ [year]).max? = some (max (years.max?.getD 0) year) := by
  cases years with
  | nil => simp
  | cons first rest =>
    rw [List.cons_append, List.max?_cons', List.max?_cons', List.foldl_append]
    rfl

/-- **The year of a node** is the latest of its reasons'. -/
theorem introduced?_eq_max? (text : List Char) (ancestors : List Node) (node : Node) :
    introduced? text ancestors node = ((reasons text ancestors node).map Reason.year).max? := by
  rw [reasons, List.map_append, introduced?, isAsyncFunction, ← max?_formReasons, asyncReasons,
    Node.hasChild]
  cases opensFunction node.kind with
  | false => simp
  | true =>
    cases node.childOfKind? "async" with
    | none => simp
    | some token => exact (max?_concat _ 2017).symm

/-- A node that is too new has a newer reason. -/
theorem exists_newer_of_isTooNew {rules : Rules} (h : rules.isTooNew text ancestors node = true) :
    rules.grammar = .javaScript ∧ ∃ reason ∈ reasons text ancestors node, rules.year < reason.year := by
  rw [isTooNew, Bool.and_eq_true, beq_iff_eq, introduced?_eq_max?, Option.any_eq_true] at h
  obtain ⟨hGrammar, year, hMax, hYear⟩ := h
  obtain ⟨reason, hReason, rfl⟩ := List.mem_map.mp (List.max?_mem hMax)
  exact ⟨hGrammar, reason, hReason, of_decide_eq_true hYear⟩

/-! ### Where a node is reported -/

theorem ofNode_of_loop (h : node.kind = "for_in_statement") :
    Offence.ofNode node = .node ((node.childOfKind? "of").getD node.firstLeaf) := by
  simp only [Offence.ofNode, h]

theorem ofNode_of_method (h : node.kind = "method_definition") :
    Offence.ofNode node = Offence.afterChild node "name" := by
  simp only [Offence.ofNode, h]

theorem ofNode_of_operator
    (h : node.kind = "binary_expression" ∨ node.kind = "augmented_assignment_expression") :
    Offence.ofNode node = .node ((node.childOf? "operator").getD node) := by
  rcases h with hKind | hKind <;> simp only [Offence.ofNode, hKind]

/-- Of the functions only methods are not reported at their first token. -/
theorem index_ofNode_of_function (h : opensFunction node.kind = true) :
    (Offence.ofNode node).index text =
      if node.kind = "method_definition" then (Offence.afterChild node "name").index text
      else node.firstLeaf.start := by
  split
  · rw [ofNode_of_method ‹_›]
  · rename_i hOther
    have hLate : node.kind ∉ lateKinds := by
      have hFunctions : ∀ kind ∈ functionKinds, kind ≠ "method_definition" → kind ∉ lateKinds := by
        decide
      exact hFunctions _ (List.contains_iff_mem.mp h) hOther
    rw [ofNode_of_not_late hLate]
    rfl

theorem index_mem_of_loopReasons (hKind : node.kind = "for_in_statement")
    (h : reason ∈ loopReasons node) :
    (reason.novelty = .awaiting ∧ ∃ token ∈ node.childOfKind? "await", token.start ∈ reason.places) ∨
      (Offence.ofNode node).index text ∈ reason.places := by
  rw [loopReasons, List.mem_append] at h
  simp only [Option.mem_toList, Option.map_eq_some_iff] at h
  rcases h with ⟨token, hToken, rfl⟩ | ⟨token, hToken, rfl⟩
  · rw [ofNode_of_loop hKind, hToken]
    exact .inr List.mem_cons_self
  · exact .inl ⟨rfl, token, hToken, List.mem_cons_self⟩

theorem index_mem_of_operatorReasons {years : List (String × Nat)}
    (hKind : node.kind = "binary_expression" ∨ node.kind = "augmented_assignment_expression")
    (h : reason ∈ operatorReasons years text node) :
    (Offence.ofNode node).index text ∈ reason.places := by
  rw [operatorReasons] at h
  split at h
  · rename_i operator year hOperator _
    obtain rfl := List.mem_singleton.mp h
    rw [ofNode_of_operator hKind, hOperator]
    exact List.mem_cons_self
  · cases h

/-- A loop that waits for its values, as a reason. -/
def IsAwaiting (node : Node) (reason : Reason) : Prop :=
  node.kind = "for_in_statement" ∧ reason.novelty = .awaiting ∧
    ∃ token ∈ node.childOfKind? "await", token.start ∈ reason.places

/-- An asynchronous function, as a reason. -/
def IsAsynchrony (node : Node) (reason : Reason) : Prop :=
  opensFunction node.kind = true ∧ reason.novelty = .asynchrony ∧
    ∃ token ∈ node.childOfKind? "async", token.start ∈ reason.places

/-- **A node is reported at what is new in its form,** unless that is the waiting of a loop. -/
theorem index_mem_of_formReasons (h : reason ∈ formReasons text ancestors node) :
    IsAwaiting node reason ∨ (Offence.ofNode node).index text ∈ reason.places := by
  rw [formReasons] at h
  split at h
  · rename_i hKind
    exact (index_mem_of_loopReasons hKind h).imp_left (⟨hKind, ·⟩)
  · rename_i hKind
    split at h
    · obtain rfl := List.mem_singleton.mp h
      rw [ofNode_of_method hKind]
      exact .inr List.mem_cons_self
    · cases h
  · rename_i hKind
    exact .inr (index_mem_of_operatorReasons (.inl hKind) h)
  · rename_i hKind
    exact .inr (index_mem_of_operatorReasons (.inr hKind) h)
  · simp only [Option.mem_toList, Option.map_eq_some_iff] at h
    obtain ⟨year, -, rfl⟩ := h
    exact .inr List.mem_cons_self

theorem isAsynchrony_of_mem (h : reason ∈ asyncReasons text node) : IsAsynchrony node reason := by
  rw [asyncReasons] at h
  split at h
  · rename_i hFunction
    simp only [Option.mem_toList, Option.map_eq_some_iff] at h
    obtain ⟨token, hToken, rfl⟩ := h
    exact ⟨hFunction, rfl, token, hToken, List.mem_cons_self⟩
  · cases h

/-- **A node is reported at each of its reasons,** but for the waiting of a loop and the asynchrony
of a function. -/
theorem index_mem_places (h : reason ∈ reasons text ancestors node) :
    IsAwaiting node reason ∨ IsAsynchrony node reason ∨
      (Offence.ofNode node).index text ∈ reason.places := by
  rcases List.mem_append.mp h with hForm | hAsync
  · exact (index_mem_of_formReasons hForm).imp_right .inr
  · exact .inr (.inl (isAsynchrony_of_mem hAsync))

theorem not_isAsynchrony_of_isAwaiting {other : Reason} (h : IsAwaiting node reason) :
    ¬IsAsynchrony node other := by
  rintro ⟨hFunction, -⟩
  rw [h.1] at hFunction
  exact absurd hFunction (by decide)

/-- A loop is no function, so where no reason is hit all that are newer are of one novelty. -/
theorem all_of_missed {newer : List Reason} (hNewer : newer ⊆ reasons text ancestors node)
    (hMissed : ∀ reason ∈ newer, (Offence.ofNode node).index text ∉ reason.places) :
    (∀ reason ∈ newer, IsAwaiting node reason) ∨ ∀ reason ∈ newer, IsAsynchrony node reason := by
  have hEach : ∀ reason ∈ newer, IsAwaiting node reason ∨ IsAsynchrony node reason := by
    intro reason hMem
    rcases index_mem_places (hNewer hMem) with hAwaiting | hAsync | hHit
    · exact .inl hAwaiting
    · exact .inr hAsync
    · exact absurd hHit (hMissed reason hMem)
  by_cases hAny : ∃ reason ∈ newer, IsAwaiting node reason
  · obtain ⟨first, -, hFirst⟩ := hAny
    exact .inl fun reason hMem =>
      (hEach reason hMem).resolve_right (not_isAsynchrony_of_isAwaiting hFirst)
  · exact .inr fun reason hMem =>
      (hEach reason hMem).resolve_left fun hIs => hAny ⟨reason, hMem, hIs⟩

/-- **What is too new is reported at a newer reason,** but for an `await` or an `async`.  A node that
is too new has a reason that is newer than the edition, and is reported at every one that is not the
waiting of a loop or the asynchrony of a function.  So it is reported at a newer reason, unless
nothing else is newer: then it may be that a loop that waits is reported at its `of`, an asynchronous
method after its name and another asynchronous function at its first token, which is not `async`. -/
theorem tooNew_reported_at_reason (rules : Rules) (text : List Char) (root : Node) :
    ∀ report ∈ rules.reports text root, isFault report.1.node = false →
      rules.breach? text report.1.ancestors report.1.node = some .tooNew →
      let node := report.1.node
      let all := reasons text report.1.ancestors node
      let newer := all.filter fun reason => rules.year < reason.year
      let index := report.2.index
      rules.grammar = .javaScript ∧ node.isNamed = true ∧
      introduced? text report.1.ancestors node = (all.map Reason.year).max? ∧ newer ≠ [] ∧
      report.2 = (Offence.ofNode node).report text ∧
      (∀ reason ∈ newer, reason.novelty ≠ .awaiting → reason.novelty ≠ .asynchrony →
        index ∈ reason.places) ∧
      ((∃ reason ∈ newer, index ∈ reason.places) ∨
        (node.kind = "for_in_statement" ∧ (∀ reason ∈ newer, reason.novelty = .awaiting) ∧
          (∃ token ∈ node.childOfKind? "await", token.start ≠ index) ∧
          index = ((node.childOfKind? "of").getD node.firstLeaf).start) ∨
        (opensFunction node.kind = true ∧ (∀ reason ∈ newer, reason.novelty = .asynchrony) ∧
          (∃ token ∈ node.childOfKind? "async", token.start ≠ index) ∧
          index = if node.kind = "method_definition" then
            (Offence.afterChild node "name").index text else node.firstLeaf.start)) := by
  intro report hMem hSound hBreach node all newer index
  obtain ⟨-, sighting, hSighting, hReport⟩ := exists_sighting_of_mem_reports hMem
  rw [sighting?, hSound, if_neg Bool.false_ne_true, hBreach] at hSighting
  split at hSighting
  · rename_i hNamed
    obtain rfl := Option.some.inj hSighting
    have hIndex : index = (Offence.ofNode node).index text := congrArg BuildError.index hReport
    obtain ⟨hGrammar, first, hFirst, hYear⟩ := exists_newer_of_isTooNew (breaks_of_breach? hBreach)
    have hNewer : first ∈ newer := List.mem_filter.mpr ⟨hFirst, decide_eq_true hYear⟩
    have hSubset : newer ⊆ all := List.filter_sublist.subset
    refine ⟨hGrammar, hNamed, introduced?_eq_max? text _ node, List.ne_nil_of_mem hNewer,
      hReport.trans (Offence.report_eq text _).symm, ?_, ?_⟩
    · intro reason hReason hNotAwaiting hNotAsync
      rw [hIndex]
      rcases index_mem_places (hSubset hReason) with hAwaiting | hAsync | hHit
      · exact absurd hAwaiting.2.1 hNotAwaiting
      · exact absurd hAsync.2.1 hNotAsync
      · exact hHit
    · rw [hIndex]
      by_cases hHit : ∃ reason ∈ newer, (Offence.ofNode node).index text ∈ reason.places
      · exact .inl hHit
      have hMissed : ∀ reason ∈ newer, (Offence.ofNode node).index text ∉ reason.places :=
        fun reason hReason hIn => hHit ⟨reason, hReason, hIn⟩
      -- Nothing that is newer is hit, so the token of the newer reason is somewhere else.
      have hElsewhere : ∀ token : Node, token.start ∈ first.places →
          token.start ≠ (Offence.ofNode node).index text := by
        intro token hPlace hIs
        exact hMissed first hNewer (hIs ▸ hPlace)
      rcases all_of_missed hSubset hMissed with hAll | hAll
      · obtain ⟨hKind, -, token, hToken, hPlace⟩ := hAll first hNewer
        refine .inr (.inl ⟨hKind, fun reason hReason => (hAll reason hReason).2.1,
          ⟨token, hToken, hElsewhere token hPlace⟩, ?_⟩)
        rw [ofNode_of_loop hKind]
        rfl
      · obtain ⟨hKind, -, token, hToken, hPlace⟩ := hAll first hNewer
        exact .inr (.inr ⟨hKind, fun reason hReason => (hAll reason hReason).2.1,
          ⟨token, hToken, hElsewhere token hPlace⟩, index_ofNode_of_function hKind⟩)
  · cases hSighting

/-- The code `async function f() { for await (const x of xs) {} }`. -/
def loopThatWaits : Node :=
  .mk { kind := "program", start := 0, stop := 51 } [
    .mk { kind := "function_declaration", start := 0, stop := 51 } [
      .mk { kind := "async", named := false, start := 0, stop := 5 } [],
      .mk { kind := "function", named := false, start := 6, stop := 14 } [],
      .mk { kind := "identifier", start := 15, stop := 16, field := some "name" } [],
      .mk { kind := "formal_parameters", start := 16, stop := 18, field := some "parameters" } [
        .mk { kind := "(", named := false, start := 16, stop := 17 } [],
        .mk { kind := ")", named := false, start := 17, stop := 18 } []],
      .mk { kind := "statement_block", start := 19, stop := 51, field := some "body" } [
        .mk { kind := "\x7b", named := false, start := 19, stop := 20 } [],
        .mk { kind := "for_in_statement", start := 21, stop := 49 } [
          .mk { kind := "for", named := false, start := 21, stop := 24 } [],
          .mk { kind := "await", named := false, start := 25, stop := 30 } [],
          .mk { kind := "(", named := false, start := 31, stop := 32 } [],
          .mk { kind := "const", named := false, start := 32, stop := 37, field := some "kind" } [],
          .mk { kind := "identifier", start := 38, stop := 39, field := some "left" } [],
          .mk { kind := "of", named := false, start := 40, stop := 42, field := some "operator" } [],
          .mk { kind := "identifier", start := 43, stop := 45, field := some "right" } [],
          .mk { kind := ")", named := false, start := 45, stop := 46 } [],
          .mk { kind := "statement_block", start := 47, stop := 49, field := some "body" } []],
        .mk { kind := "\x7d", named := false, start := 50, stop := 51 } []]]]

/-- **A loop that waits is reported at its `of`,** which editions have had since 2015, where all that
is newer than the edition is its `await`. -/
theorem waiting_reported_at_of :
    let text := "async function f() \x7b for await (const x of xs) \x7b\x7d \x7d".toList
    let rules : Rules := { plain with year := 2017 }
    loopThatWaits.InOrder text ∧
    rules.check text loopThatWaits = [.malformed 1 41 40 "Unexpected identifier"] ∧
    (rules.reports text loopThatWaits).map (fun report => (report.2.index,
      (reasons text report.1.ancestors report.1.node).filter (rules.year < ·.year))) =
        [(40, [⟨.awaiting, 2018, [25]⟩])] := by
  decide +kernel

/-- In an edition that has neither, the loop's `of` is newer too, and the function begins with its
`async`: both are reported where they are new. -/
theorem reported_at_reason_of_loopThatWaits :
    let text := "async function f() \x7b for await (const x of xs) \x7b\x7d \x7d".toList
    let rules : Rules := { plain with year := 2009 }
    (rules.reports text loopThatWaits).map (·.2.index) = [0, 40] ∧
    ∀ report ∈ rules.reports text loopThatWaits,
      ∃ reason ∈ reasons text report.1.ancestors report.1.node,
        rules.year < reason.year ∧ report.2.index ∈ reason.places := by
  intro text rules
  have hNodes : ∀ report ∈ rules.reports text loopThatWaits, isFault report.1.node = false ∧
      rules.breach? text report.1.ancestors report.1.node = some .tooNew ∧
      (report.1.node.kind = "for_in_statement" →
        ∃ reason ∈ (reasons text report.1.ancestors report.1.node).filter (rules.year < ·.year),
          reason.novelty ≠ .awaiting) ∧
      (opensFunction report.1.node.kind = true → report.1.node.kind ≠ "method_definition" ∧
        ∀ token ∈ report.1.node.childOfKind? "async",
          token.start = report.1.node.firstLeaf.start) := by
    decide +kernel
  refine ⟨by decide +kernel, fun report hMem => ?_⟩
  obtain ⟨hSound, hBreach, hLoop, hFunction⟩ := hNodes report hMem
  obtain ⟨-, -, -, -, -, -, hWhere⟩ :=
    tooNew_reported_at_reason rules text loopThatWaits report hMem hSound hBreach
  rcases hWhere with ⟨reason, hReason, hPlace⟩ | ⟨hKind, hAll, -⟩ |
    ⟨hKind, -, ⟨token, hToken, hNot⟩, hIndex⟩
  · obtain ⟨hIn, hYear⟩ := List.mem_filter.mp hReason
    exact ⟨reason, hIn, of_decide_eq_true hYear, hPlace⟩
  · obtain ⟨reason, hReason, hNot⟩ := hLoop hKind
    exact absurd (hAll reason hReason) hNot
  · obtain ⟨hNoMethod, hFirst⟩ := hFunction hKind
    rw [if_neg hNoMethod] at hIndex
    exact absurd ((hFirst token hToken).trans hIndex.symm) hNot

end Rules

end ScriptAnalysis
