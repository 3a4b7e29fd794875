import Mathlib.Data.List.Find
import ScriptAnalysis.Proofs.Below
import ScriptAnalysis.Proofs.Permissiveness

/-!
# What asking for markup changes

The plain grammar takes markup whether or not the dialect asks for it; a dialect that does not has
each element rejected and nothing below it looked at.  So two dialects that differ in this alone are
compared at the positions that neither a fault nor an element hides, which are those that the
stricter one examines.

* `reports_asking`, `reports_without`: at an outermost element the one reports what is wrong below
  it and the other the element itself; anywhere else they report the same.
* `mem_reportsBelow`: what is reported below a position is what is reported at positions below it.
* `check_markup_irrel`: with types markup is never rejected.
* `build_of_markup`: the two dialects compared, check by check and build by build.
-/

namespace ScriptAnalysis

open Syntax (Cursor Node)

/-- The dialect with markup asked for besides. -/
def Dialect.askingForMarkup (dialect : Dialect) : Dialect :=
  { dialect with features := some ((dialect.features.getD .empty).set "jsx" true) }

namespace Rules

/-- Whether a node is markup: a named element. -/
def isMarkup (node : Node) : Bool :=
  node.isNamed && (node.kind == "jsx_element" || node.kind == "jsx_self_closing_element")

/-- Whether nothing below a node is compared: it is a fault or an element. -/
def closesOff (node : Node) : Bool := isFault node || isMarkup node

variable (rules : Rules) (text : List Char)

/-! ### Reports below a position -/

/-- The report at a position, if there is one. -/
def reportAt? (cursor : Cursor) : Option (Cursor × BuildError) :=
  (rules.errorAt? text cursor.ancestors cursor.node).map (cursor, ·)

/-- What is reported below a position, in the order of the text. -/
def reportsBelow (cursor : Cursor) : List (Cursor × BuildError) :=
  (Cursor.seen rules.hidesBelow cursor.below).filterMap (rules.reportAt? text)

theorem reports_eq (root : Node) :
    rules.reports text root =
      (Cursor.seen rules.hidesBelow root.positions).filterMap (rules.reportAt? text) := by
  rw [reports, examined_eq]
  rfl

variable {rules text}

theorem fst_of_reportAt? {cursor : Cursor} {report : Cursor × BuildError}
    (h : rules.reportAt? text cursor = some report) : report.1 = cursor := by
  obtain ⟨error, -, rfl⟩ := Option.map_eq_some_iff.mp h
  rfl

/-- **What is reported below a position** is what is reported at the positions below it. -/
theorem mem_reportsBelow {root : Node} {cursor : Cursor} (hMem : cursor ∈ root.positions)
    (report : Cursor × BuildError) :
    report ∈ rules.reportsBelow text cursor ↔
      report ∈ rules.reports text root ∧ Cursor.Above cursor report.1 := by
  rw [reportsBelow, reports_eq, List.mem_filterMap, List.mem_filterMap]
  constructor
  · rintro ⟨stop, hStop, hReport⟩
    rw [Cursor.mem_seen, Cursor.mem_below_iff hMem] at hStop
    obtain ⟨⟨hIn, hAbove⟩, hSeen⟩ := hStop
    rw [fst_of_reportAt? hReport]
    exact ⟨⟨stop, Cursor.mem_seen.mpr ⟨hIn, hSeen⟩, hReport⟩, hAbove⟩
  · rintro ⟨⟨stop, hStop, hReport⟩, hAbove⟩
    rw [Cursor.mem_seen] at hStop
    rw [fst_of_reportAt? hReport] at hAbove
    refine ⟨stop, ?_, hReport⟩
    rw [Cursor.mem_seen, Cursor.mem_below_iff hMem]
    exact ⟨⟨hStop.1, hAbove⟩, hStop.2⟩

/-! ### At an element -/

theorem kind_of_isMarkup {node : Node} (h : isMarkup node = true) :
    node.isNamed = true ∧ (node.kind = "jsx_element" ∨ node.kind = "jsx_self_closing_element") := by
  simpa [isMarkup] using h

theorem rejectsMarkup_eq (hPlain : rules.grammar = .javaScript) {node : Node}
    (hNamed : node.isNamed = true) :
    rules.rejectsMarkup node = (!rules.markup && isMarkup node) := by
  rw [rejectsMarkup, isMarkup, hPlain, hNamed]
  rfl

/-- Every edition has markup, as far as the rules on editions go. -/
theorem introduced?_of_isMarkup {ancestors : List Node} {node : Node}
    (h : isMarkup node = true) : introduced? text ancestors node = none := by
  rcases (kind_of_isMarkup h).2 with hKind | hKind
  · rw [introduced?, formYear?, isAsyncFunction, hKind]
    rfl
  · rw [introduced?, formYear?, isAsyncFunction, hKind]
    rfl

/-- An element breaks the rule on markup or none. -/
theorem breach?_of_isMarkup (hPlain : rules.grammar = .javaScript) {ancestors : List Node}
    {node : Node} (h : isMarkup node = true) :
    rules.breach? text ancestors node = if rules.markup then none else some .markup := by
  obtain ⟨hNamed, hKind⟩ := kind_of_isMarkup h
  have hModule : isModuleOnly text node = false := by
    refine Bool.eq_false_iff.mpr fun hOnly => ?_
    have hKinds := kind_of_isModuleOnly hOnly
    rcases hKind with hKind | hKind <;> simp [hKind] at hKinds
  have hWith : (node.kind == "with_statement") = false := by
    rcases hKind with hKind | hKind <;> simp [hKind]
  have hReturn : (node.kind == "return_statement") = false := by
    rcases hKind with hKind | hKind <;> simp [hKind]
  have hTooNew : rules.isTooNew text ancestors node = false := by
    rw [isTooNew, introduced?_of_isMarkup h]
    exact Bool.and_false _
  rw [breach?, hModule, hWith, hReturn, hTooNew, rejectsMarkup_eq hPlain hNamed, h]
  cases rules.markup <;> simp

/-- The error that rejects an element. -/
def unexpectedElement (text : List Char) (node : Node) : BuildError :=
  .atOffset text node.start "Unexpected token <"

theorem errorAt?_of_isMarkup (hPlain : rules.grammar = .javaScript) {ancestors : List Node}
    {node : Node} (hFault : isFault node = false) (h : isMarkup node = true) :
    rules.errorAt? text ancestors node =
      if rules.markup then none else some (unexpectedElement text node) := by
  rw [errorAt?, hFault, (kind_of_isMarkup h).1, breach?_of_isMarkup hPlain h]
  cases rules.markup <;> rfl

/-- Anywhere else the view of markup makes no difference. -/
theorem errorAt?_markup_irrel {ancestors : List Node} {node : Node}
    (h : isFault node = true ∨ isMarkup node = false) (markup : Bool) :
    ({ rules with markup := markup } : Rules).errorAt? text ancestors node =
      rules.errorAt? text ancestors node := by
  rw [errorAt?, errorAt?]
  cases hFault : isFault node with
  | true => rfl
  | false =>
    cases hNamed : node.isNamed with
    | false => rfl
    | true =>
      have hOther : isMarkup node = false := by
        rw [hFault] at h
        exact h.resolve_left Bool.false_ne_true
      have hKinds : (node.kind == "jsx_element" || node.kind == "jsx_self_closing_element") =
          false := by
        rwa [isMarkup, hNamed, Bool.true_and] at hOther
      have hNever : ∀ others : Rules, others.rejectsMarkup node = false := by
        intro others
        rw [rejectsMarkup, hKinds]
        exact Bool.and_false _
      have hBreach : ({ rules with markup := markup } : Rules).breach? text ancestors node =
          rules.breach? text ancestors node := by
        rw [breach?, breach?, hNever, hNever]
        rfl
      rw [hBreach]

/-! ### The two checks -/

/-- The positions that neither a fault nor an element hides. -/
def openPositions (root : Node) : List Cursor := Cursor.seen closesOff root.positions

/-- Whether an element stands at a position, and no fault. -/
def isElementAt (cursor : Cursor) : Bool := isMarkup cursor.node && !isFault cursor.node

theorem hidesBelow_of_asking (hAsking : rules.markup = true) : rules.hidesBelow = isFault := by
  funext node
  rw [hidesBelow, rejectsMarkup, hAsking]
  simp

theorem hidesBelow_of_without (hPlain : rules.grammar = .javaScript)
    (hWithout : rules.markup = false) : rules.hidesBelow = closesOff := by
  funext node
  rw [hidesBelow, closesOff]
  cases hNamed : node.isNamed with
  | true =>
    rw [rejectsMarkup_eq hPlain hNamed, hWithout]
    rfl
  | false =>
    rw [isMarkup, hNamed]
    rfl

theorem closesOff_of_isFault {node : Node} (h : isFault node = true) : closesOff node = true := by
  rw [closesOff, h, Bool.true_or]

/-- **Rules that ask for markup** report below an outermost element what is wrong there. -/
theorem reports_asking (hPlain : rules.grammar = .javaScript) (hAsking : rules.markup = true)
    (root : Node) :
    rules.reports text root = (openPositions root).flatMap fun cursor =>
      if isElementAt cursor then rules.reportsBelow text cursor
      else (rules.reportAt? text cursor).toList := by
  have hHides := hidesBelow_of_asking hAsking
  rw [reports_eq, hHides, Cursor.seen_positions_refine (fun _ => closesOff_of_isFault),
    List.filterMap_flatMap]
  refine List.flatMap_congr fun cursor _ => ?_
  have hLone : [cursor].filterMap (rules.reportAt? text) =
      (rules.reportAt? text cursor).toList := by
    cases hReport : rules.reportAt? text cursor <;> simp [hReport]
  rw [Cursor.withHidden, isElementAt, closesOff]
  cases hFault : isFault cursor.node with
  | true =>
    -- What is below a fault is hidden from both.
    rw [Cursor.seen_below_of_hides hFault]
    simpa using hLone
  | false =>
    cases hMarkup : isMarkup cursor.node with
    | true =>
      have hNone : rules.reportAt? text cursor = none := by
        rw [reportAt?, errorAt?_of_isMarkup hPlain hFault hMarkup, hAsking]
        rfl
      rw [reportsBelow, hHides]
      exact List.filterMap_cons_none hNone
    | false => simpa using hLone

/-- **Rules that do not** reject the outermost element. -/
theorem reports_without (hPlain : rules.grammar = .javaScript) (hWithout : rules.markup = false)
    (root : Node) :
    rules.reports text root = (openPositions root).flatMap fun cursor =>
      if isElementAt cursor then [(cursor, unexpectedElement text cursor.node)]
      else (({ rules with markup := true } : Rules).reportAt? text cursor).toList := by
  rw [reports_eq, hidesBelow_of_without hPlain hWithout, List.filterMap_eq_flatMap_toList,
    openPositions]
  refine List.flatMap_congr fun cursor _ => ?_
  rw [isElementAt, reportAt?, reportAt?]
  cases hFault : isFault cursor.node with
  | true =>
    rw [errorAt?_markup_irrel (Or.inl hFault) true, Bool.not_true, Bool.and_false]
    rfl
  | false =>
    cases hMarkup : isMarkup cursor.node with
    | true =>
      rw [errorAt?_of_isMarkup hPlain hFault hMarkup, hWithout]
      rfl
    | false =>
      rw [errorAt?_markup_irrel (Or.inr hMarkup) true]
      rfl

/-! ### With types -/

theorem rejectsMarkup_of_typed (hTyped : rules.grammar ≠ .javaScript) (node : Node) :
    rules.rejectsMarkup node = false := by
  rw [rejectsMarkup, beq_false_of_ne hTyped]
  rfl

/-- With types no node is rejected for being markup. -/
theorem breach?_ne_markup (hTyped : rules.grammar ≠ .javaScript) (ancestors : List Node)
    (node : Node) : rules.breach? text ancestors node ≠ some .markup := by
  rw [breach?, rejectsMarkup_of_typed hTyped]
  split
  · simp
  split
  · simp
  · split
    · contradiction
    split
    · simp
    split
    · simp
    · simp

/-- **With types** it makes no difference whether markup is asked for. -/
theorem check_markup_irrel (hTyped : rules.grammar ≠ .javaScript) (markup : Bool) (root : Node) :
    ({ rules with markup := markup } : Rules).check text root = rules.check text root := by
  let others : Rules := { rules with markup := markup }
  have hOthers : others.grammar ≠ .javaScript := hTyped
  have hNever : ∀ node, others.rejectsMarkup node = rules.rejectsMarkup node := by
    intro node
    rw [rejectsMarkup_of_typed hTyped, rejectsMarkup_of_typed hOthers]
  have hHides : others.hidesBelow = rules.hidesBelow := by
    funext node
    rw [hidesBelow, hidesBelow, hNever]
  rw [check_eq, check_eq, examined_eq, examined_eq, hHides]
  refine List.filterMap_congr fun cursor _ => ?_
  have hBreach : others.breach? text cursor.ancestors cursor.node =
      rules.breach? text cursor.ancestors cursor.node := by
    rw [breach?, breach?, hNever]
    rfl
  rw [errorAt?, errorAt?, hBreach]

/-! ### Two dialects -/

/-- Two dialects that differ in nothing but that the second asks for markup; neither asks for
types. -/
structure AddsMarkup (without asking : Dialect) : Prop where
  locations : asking.locations = without.locations
  version : asking.version = without.version
  sourceType : asking.sourceType = without.sourceType
  tolerant : asking.tolerant = without.tolerant
  feature : ∀ name, name ≠ "jsx" → asking.hasFeature name = without.hasFeature name
  untyped : without.hasFeature "typescript" = false
  off : without.hasFeature "jsx" = false
  on : asking.hasFeature "jsx" = true

theorem ofDialect_of_addsMarkup {without asking : Dialect} (h : AddsMarkup without asking) :
    Rules.ofDialect asking =
      (Rules.ofDialect without).map fun rules => { rules with markup := true } := by
  have hTyped : asking.hasFeature "typescript" = false :=
    (h.feature "typescript" (by decide)).trans h.untyped
  have hReturn := h.feature "globalReturn" (by decide)
  have hModule : asking.isModule = without.isModule := by
    rw [Dialect.isModule, Dialect.isModule, h.sourceType]
  rw [ofDialect, ofDialect, h.version, Grammar.ofDialect, Grammar.ofDialect, hTyped, h.untyped,
    h.on, hReturn, hModule]
  cases yearOf without.version <;> rfl

theorem plain_of_addsMarkup {without asking : Dialect} (h : AddsMarkup without asking)
    (hRules : Rules.ofDialect without = .ok rules) :
    rules.grammar = .javaScript ∧ rules.markup = false := by
  obtain ⟨-, hGrammar, -, hMarkup, -⟩ := ofDialect_eq_ok_iff.mp hRules
  rw [Grammar.ofDialect, h.untyped] at hGrammar
  exact ⟨hGrammar, hMarkup.trans h.off⟩

theorem addsMarkup_askingForMarkup {dialect : Dialect}
    (hUntyped : dialect.hasFeature "typescript" = false)
    (hOff : dialect.hasFeature "jsx" = false) : AddsMarkup dialect dialect.askingForMarkup := by
  have hFeature : ∀ name, dialect.askingForMarkup.hasFeature name =
      if name = "jsx" then true else dialect.hasFeature name := by
    intro name
    rw [Dialect.askingForMarkup, Dialect.hasFeature, Dialect.hasFeature, Option.any_some,
      Features.isEnabled, Features.set, Data.Table.find?_insert]
    split
    · rfl
    · cases dialect.features <;> rfl
  refine ⟨rfl, rfl, rfl, rfl, ?_, hUntyped, hOff, hFeature "jsx"⟩
  intro name hName
  rw [hFeature, if_neg hName]

/-- What is in order without markup is in order with it. -/
theorem check_asking_of_nil (hPlain : rules.grammar = .javaScript) (hWithout : rules.markup = false)
    {root : Node} (hNone : rules.check text root = []) :
    ({ rules with markup := true } : Rules).check text root = [] := by
  rw [check_eq_nil_iff] at hNone ⊢
  intro cursor hMem
  have hHere := hNone cursor hMem
  have hOther : isFault cursor.node = true ∨ isMarkup cursor.node = false := by
    rw [or_iff_not_imp_left, Bool.not_eq_true]
    intro hFault
    refine Bool.eq_false_iff.mpr fun hMarkup => ?_
    rw [errorAt?_of_isMarkup hPlain hFault hMarkup, hWithout] at hHere
    cases hHere
  rw [errorAt?_markup_irrel hOther, hHere]

theorem isFault_of_check_nil {root : Node} (hNone : rules.check text root = []) {cursor : Cursor}
    (hMem : cursor ∈ root.positions) : isFault cursor.node = false :=
  ((rules.errorAt?_eq_none_iff text _ _).mp
    ((rules.check_eq_nil_iff text root).mp hNone cursor hMem)).1

/-- Where nothing is wrong but that there is markup, the first element is the first error. -/
theorem check_without_of_clean (hPlain : rules.grammar = .javaScript)
    (hWithout : rules.markup = false) {root : Node}
    (hNone : ({ rules with markup := true } : Rules).check text root = []) :
    match root.nodes.find? isMarkup with
    | none => rules.check text root = []
    | some node => ∃ rest, rules.check text root = unexpectedElement text node :: rest := by
  have hSound : ∀ cursor ∈ openPositions root, isFault cursor.node = false ∧
      ({ rules with markup := true } : Rules).reportAt? text cursor = none := by
    intro cursor hOpen
    have hMem : cursor ∈ root.positions := (Cursor.mem_seen.mp hOpen).1
    refine ⟨isFault_of_check_nil hNone hMem, ?_⟩
    rw [reportAt?, (check_eq_nil_iff _ text root).mp hNone cursor hMem]
    rfl
  have hReports : rules.reports text root = (openPositions root).flatMap fun cursor =>
      if isMarkup cursor.node then [(cursor, unexpectedElement text cursor.node)] else [] := by
    rw [reports_without hPlain hWithout]
    refine List.flatMap_congr fun cursor hOpen => ?_
    rw [isElementAt, (hSound cursor hOpen).1, (hSound cursor hOpen).2]
    cases isMarkup cursor.node <;> rfl
  have hFirst : (openPositions root).find? (isMarkup ·.node) =
      root.positions.find? (isMarkup ·.node) := by
    have hSame : ∀ cursor ∈ root.positions, isMarkup cursor.node = closesOff cursor.node := by
      intro cursor hMem
      rw [closesOff, isFault_of_check_nil hNone hMem, Bool.false_or]
    rw [List.find?_congr hSame, ← Cursor.find?_seen_positions]
    exact List.find?_congr fun cursor hOpen => hSame cursor (Cursor.mem_seen.mp hOpen).1
  rw [Node.nodes, List.find?_map, ← map_reports, hReports]
  cases hFound : root.positions.find? (isMarkup ∘ Cursor.node) with
  | none =>
    rw [Option.map_none]
    refine List.map_eq_nil_iff.mpr (List.flatMap_eq_nil_iff.mpr fun cursor hOpen => ?_)
    have hOther := List.find?_eq_none.mp (hFirst.trans hFound) cursor hOpen
    rw [if_neg hOther]
  | some cursor =>
    rw [Option.map_some]
    obtain ⟨hIs, before, after, hOpen, hBefore⟩ :=
      List.find?_eq_some_iff_append.mp (hFirst.trans hFound)
    have hNil : (before.flatMap fun cursor =>
        if isMarkup cursor.node then [(cursor, unexpectedElement text cursor.node)] else []) =
          [] := by
      refine List.flatMap_eq_nil_iff.mpr fun other hOther => ?_
      rw [if_neg (by simpa using hBefore other hOther)]
    rw [hOpen, List.flatMap_append, hNil, List.nil_append, List.flatMap_cons, if_pos hIs]
    exact ⟨_, rfl⟩

variable {parse : Parser} {code : String} {without asking : Dialect}

/-- Trees without errors are the same whether or not markup is asked for. -/
theorem checked_asking_eq (hWithout : (SyntaxTree.checked parse rules code).errors = [])
    (hAsking : (SyntaxTree.checked parse { rules with markup := true } code).errors = []) :
    SyntaxTree.checked parse { rules with markup := true } code =
      SyntaxTree.checked parse rules code := by
  rw [SyntaxTree.checked] at hWithout hAsking ⊢
  rw [SyntaxTree.checked]
  simp only at hWithout hAsking
  rw [hWithout, hAsking]

/-- **What builds strictly without markup** builds with it, to the same tree. -/
theorem build_asking_of_without (h : AddsMarkup without asking)
    (hStrict : without.isTolerant = false) {tree : SyntaxTree}
    (hTree : SyntaxTree.build parse code without = .ok tree) :
    SyntaxTree.build parse code asking = .ok tree := by
  cases hRules : Rules.ofDialect without with
  | error unknown =>
    rw [SyntaxTree.build_unknown hRules] at hTree
    cases hTree
  | ok rules =>
    obtain ⟨hPlain, hWithout⟩ := plain_of_addsMarkup h hRules
    have hAsking : Rules.ofDialect asking = .ok { rules with markup := true } := by
      rw [ofDialect_of_addsMarkup h, hRules]
      rfl
    have hNone := (SyntaxTree.exists_build_iff hRules hStrict).mp ⟨tree, hTree⟩
    have hNoneAsking : (SyntaxTree.checked parse { rules with markup := true } code).errors = [] :=
      check_asking_of_nil hPlain hWithout hNone
    rw [SyntaxTree.build_strict_of_nil hRules hNone] at hTree
    rw [SyntaxTree.build_strict_of_nil hAsking hNoneAsking, checked_asking_eq hNone hNoneAsking,
      hTree]

/-- **What builds strictly with markup** fails without just when there is a named element. -/
theorem build_without_of_asking (h : AddsMarkup without asking)
    (hStrict : without.isTolerant = false) {tree : SyntaxTree}
    (hTree : SyntaxTree.build parse code asking = .ok tree) :
    SyntaxTree.build parse code without =
      match (parse .javaScript code).nodes.find? isMarkup with
      | none => .ok tree
      | some node => .error (unexpectedElement code.toList node) := by
  cases hRules : Rules.ofDialect without with
  | error unknown =>
    have hAsking : Rules.ofDialect asking = .error unknown := by
      rw [ofDialect_of_addsMarkup h, hRules]
      rfl
    rw [SyntaxTree.build_unknown hAsking] at hTree
    cases hTree
  | ok rules =>
    obtain ⟨hPlain, hWithout⟩ := plain_of_addsMarkup h hRules
    have hAsking : Rules.ofDialect asking = .ok { rules with markup := true } := by
      rw [ofDialect_of_addsMarkup h, hRules]
      rfl
    have hTolerant : asking.isTolerant = false := by
      rw [Dialect.isTolerant, h.tolerant]
      exact hStrict
    have hNoneAsking := (SyntaxTree.exists_build_iff hAsking hTolerant).mp ⟨tree, hTree⟩
    rw [SyntaxTree.build_strict_of_nil hAsking hNoneAsking] at hTree
    have hClean : ({ rules with markup := true } : Rules).check code.toList
        (parse rules.grammar code) = [] := hNoneAsking
    have hFirst := check_without_of_clean hPlain hWithout hClean
    rw [← hPlain]
    split
    · rename_i hFind
      rw [hFind] at hFirst
      rw [SyntaxTree.build_strict_of_nil hRules hFirst, ← checked_asking_eq hFirst hNoneAsking, hTree]
    · rename_i node hFind
      rw [hFind] at hFirst
      obtain ⟨rest, hErrors⟩ := hFirst
      exact SyntaxTree.build_strict_of_cons hRules hStrict hErrors

/-- **Asking for markup changes errors only inside markup.**  Let two dialects differ in nothing but
that the second asks for markup, neither asking for types.  Take the positions that no fault and no
named element lies above.  At one of them that is an element and no fault, the second check reports
what is wrong below it and the first the element alone; at any other both report the same.  So what
builds strictly without markup builds with it, to the same tree; and what builds with it fails
without just when there is a named element, with the first of them as the error.  With types an
element is never rejected, and a check is the same as if markup were asked for. -/
theorem build_of_markup (parse : Parser) (code : String) (without asking : Dialect)
    (h : AddsMarkup without asking) :
    let text := code.toList
    let root := parse .javaScript code
    let tops := root.positions.filter fun cursor => !cursor.ancestors.any fun node =>
      isFault node || isMarkup node
    (∀ others : Rules, others.check text root = (others.reports text root).map Prod.snd) ∧
    (∀ rules, Rules.ofDialect without = .ok rules → ∃ wider, Rules.ofDialect asking = .ok wider ∧
      wider.reports text root = (tops.flatMap fun cursor =>
        if isMarkup cursor.node && !isFault cursor.node then wider.reportsBelow text cursor
        else (wider.reportAt? text cursor).toList) ∧
      rules.reports text root = (tops.flatMap fun cursor =>
        if isMarkup cursor.node && !isFault cursor.node then
          [(cursor, .atOffset text cursor.node.start "Unexpected token <")]
        else (wider.reportAt? text cursor).toList) ∧
      ∀ cursor ∈ tops, ∀ report, report ∈ wider.reportsBelow text cursor ↔
        report ∈ wider.reports text root ∧ Cursor.Above cursor report.1) ∧
    (without.isTolerant = false →
      (∀ tree, SyntaxTree.build parse code without = .ok tree →
        SyntaxTree.build parse code asking = .ok tree) ∧
      ∀ tree, SyntaxTree.build parse code asking = .ok tree →
        SyntaxTree.build parse code without =
          match root.nodes.find? isMarkup with
          | none => .ok tree
          | some node => .error (.atOffset text node.start "Unexpected token <")) ∧
    ∀ (typed : Dialect) (rules : Rules), typed.hasFeature "typescript" = true →
      Rules.ofDialect typed = .ok rules → ∀ (text : List Char) (root : Node),
        (∀ ancestors node, rules.breach? text ancestors node ≠ some .markup) ∧
        rules.check text root = ({ rules with markup := true } : Rules).check text root := by
  intro text root tops
  refine ⟨fun others => (others.map_reports text root).symm, ?_, ?_, ?_⟩
  · intro rules hRules
    obtain ⟨hPlain, hWithout⟩ := plain_of_addsMarkup h hRules
    let wider : Rules := { rules with markup := true }
    have hWider : wider.grammar = .javaScript := hPlain
    refine ⟨wider, ?_, reports_asking hWider rfl root, ?_, ?_⟩
    · rw [ofDialect_of_addsMarkup h, hRules]
      rfl
    · exact reports_without hPlain hWithout root
    · intro cursor hTop report
      exact mem_reportsBelow (Cursor.mem_seen.mp hTop).1 report
  · intro hStrict
    exact ⟨fun tree => build_asking_of_without h hStrict,
      fun tree => build_without_of_asking h hStrict⟩
  · intro typed rules hTyped hRules text root
    have hGrammar : rules.grammar ≠ .javaScript := by
      rw [grammar_of_ofDialect hRules, Grammar.ofDialect, if_pos hTyped]
      cases typed.hasFeature "jsx" <;> simp
    exact ⟨breach?_ne_markup hGrammar, (check_markup_irrel hGrammar true root).symm⟩

/-- The code `a ?? <b>{c ?? <d/>}</b>`: an element within an element, and an operator of 2020 on
either side of the outer one's start. -/
def elementWithOperator : Node :=
  .mk { kind := "program", start := 0, stop := 23 } [
    .mk { kind := "binary_expression", start := 0, stop := 23 } [
      .mk { kind := "identifier", start := 0, stop := 1, field := some "left" } [],
      .mk { kind := "??", named := false, start := 2, stop := 4, field := some "operator" } [],
      .mk { kind := "jsx_element", start := 5, stop := 23, field := some "right" } [
        .mk { kind := "jsx_opening_element", start := 5, stop := 8 } [],
        .mk { kind := "jsx_expression", start := 8, stop := 19 } [
          .mk { kind := "binary_expression", start := 9, stop := 18 } [
            .mk { kind := "identifier", start := 9, stop := 10, field := some "left" } [],
            .mk { kind := "??", named := false, start := 11, stop := 13,
                  field := some "operator" } [],
            .mk { kind := "jsx_self_closing_element", start := 14, stop := 18,
                  field := some "right" } []]],
        .mk { kind := "jsx_closing_element", start := 19, stop := 23 } []]]]

/-- The dialect of an edition that asks for nothing else. -/
def ofEdition (year : UInt32) : Dialect := .ofOptions { language := some { version := some year } }

/-- Without markup the check of 2019 stops at the outer element; with it the operator inside is
found.  The edition of 2020 has the operators, and only the elements are left to reject. -/
theorem build_of_markup_inElement :
    let code := "a ?? <b>{c ?? <d/>}</b>"
    let parse : Parser := fun _ _ => elementWithOperator
    let unexpectedOperator := BuildError.malformed 1 3 2 "Unexpected token ??"
    let unexpectedMarkup := BuildError.malformed 1 6 5 "Unexpected token <"
    let innerOperator := BuildError.malformed 1 12 11 "Unexpected token ??"
    AddsMarkup (ofEdition 2019) (ofEdition 2019).askingForMarkup ∧
    (∃ rules, Rules.ofDialect (ofEdition 2019) = .ok rules ∧
      rules.check code.toList elementWithOperator = [unexpectedOperator, unexpectedMarkup]) ∧
    (∃ wider, Rules.ofDialect (ofEdition 2019).askingForMarkup = .ok wider ∧
      wider.check code.toList elementWithOperator = [unexpectedOperator, innerOperator]) ∧
    (∃ tree, SyntaxTree.build parse code (ofEdition 2020).askingForMarkup = .ok tree) ∧
    SyntaxTree.build parse code (ofEdition 2020) = .error unexpectedMarkup := by
  intro code parse unexpectedOperator unexpectedMarkup innerOperator
  have h2019 : AddsMarkup (ofEdition 2019) (ofEdition 2019).askingForMarkup :=
    addsMarkup_askingForMarkup rfl rfl
  have h2020 : AddsMarkup (ofEdition 2020) (ofEdition 2020).askingForMarkup :=
    addsMarkup_askingForMarkup rfl rfl
  obtain ⟨hChecks, hReports, -, -⟩ := build_of_markup parse code _ _ h2019
  obtain ⟨-, -, hBuild, -⟩ := build_of_markup parse code _ _ h2020
  obtain ⟨wider, hWider, hAsking, hWithout, -⟩ := hReports { plain with year := 2019 } rfl
  obtain rfl : { plain with year := 2019, markup := true } = wider := Except.ok.inj hWider
  have hTree : SyntaxTree.build parse code (ofEdition 2020).askingForMarkup =
      .ok (.checked parse { plain with year := 2020, markup := true } code) :=
    SyntaxTree.build_strict_of_nil rfl (by decide +kernel)
  have hFirst : ((parse .javaScript code).nodes.find? isMarkup).map Node.start = some 5 := by
    decide +kernel
  obtain ⟨element, hElement, hStart⟩ := Option.map_eq_some_iff.mp hFirst
  refine ⟨h2019, ⟨{ plain with year := 2019 }, rfl, ?_⟩, ⟨_, hWider, ?_⟩, ⟨_, hTree⟩, ?_⟩
  · exact (hChecks _).trans ((congrArg (List.map Prod.snd) hWithout).trans (by decide +kernel))
  · exact (hChecks _).trans ((congrArg (List.map Prod.snd) hAsking).trans (by decide +kernel))
  · rw [(hBuild rfl).2 _ hTree, hElement]
    simp only [hStart]
    exact congrArg Except.error (by decide +kernel)

end Rules

end ScriptAnalysis
