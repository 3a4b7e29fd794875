import Mathlib.Data.List.Basic
import ScriptAnalysis.Proofs.CheckOrder
import ScriptAnalysis.Proofs.TokenKinds

/-!
# What a more permissive dialect takes back

Two rules with the same grammar and the same view of markup examine the same positions of a tree, so
their errors are compared position by position.  `reports` are the errors of a check, each with the
position that it is reported at.

* `reports_later`: a newer edition takes back the errors of what it brings in, and no others.
* `reports_year_irrel`: with types the edition changes nothing.
* `reports_globalReturn`: global returns take back the illegal returns.
* `reports_module`: modules take back what is for modules only, unless the edition is too old for it
  all the same.
* `ofDialect_update`: dialects with the same grammar and the same view of markup differ in no other rule.
* `reports_of_permissive`: all of these together, and what follows for a strict build.
-/

namespace ScriptAnalysis

open Syntax (Cursor Label Node opensFunction)

/-! ### Descriptions -/

/-- The description of a return that has no function around it. -/
def illegalReturn : String := "Illegal return statement"

/-- No token is described so: the thirteenth character is that of no kind of tokens. -/
theorem Text.Token.describe_ne_illegalReturn (token : List Char) :
    Text.Token.describe token ≠ illegalReturn := by
  intro h
  obtain ⟨kind, hKind⟩ := Kind.exists_holds token
  have hLetter := Kind.getElem?_wording (String.ofList token) kind
  rw [← Kind.describe_of_holds hKind, h] at hLetter
  have hOther : illegalReturn.toList[12]? = some 'r' := by decide +kernel
  have hSame := hOther.symm.trans hLetter
  cases kind <;> exact absurd hSame (by decide)

namespace Rules

/-- Only a return that has no function around it is described as one. -/
theorem description?_recoveryError_ne (text : List Char) (node : Node) :
    (recoveryError text node).description? ≠ some illegalReturn := by
  intro h
  exact Text.Token.describe_ne_illegalReturn _ (Option.some.inj h)

theorem description?_offence_ne (text : List Char) (offence : Offence) :
    (offence.report text).description? ≠ some illegalReturn := by
  cases offence <;> exact fun h => Text.Token.describe_ne_illegalReturn _ (Option.some.inj h)

theorem description?_report (text : List Char) (node : Node) (breach : Breach) :
    (breach.report text node).description? = some illegalReturn ↔
      breach = .returnOutsideFunction := by
  cases breach with
  | moduleOnly => simpa [Breach.report] using description?_offence_ne text (.ofNode node)
  | tooNew => simpa [Breach.report] using description?_offence_ne text (.ofNode node)
  | withInModule =>
    simp [Breach.report, BuildError.atOffset, BuildError.description?, illegalReturn]
  | markup => simp [Breach.report, BuildError.atOffset, BuildError.description?, illegalReturn]
  | returnOutsideFunction =>
    simp [Breach.report, BuildError.atOffset, BuildError.description?, illegalReturn]

variable (rules : Rules) (text : List Char)

/-! ### Errors with their positions -/

/-- The errors of a check, each with the position that it is reported at. -/
def reports (root : Node) : List (Cursor × BuildError) :=
  (rules.examined text root).filterMap fun cursor =>
    (rules.errorAt? text cursor.ancestors cursor.node).map (cursor, ·)

theorem map_reports (root : Node) :
    (rules.reports text root).map Prod.snd = rules.check text root := by
  rw [check_eq, reports, List.map_filterMap]
  refine List.filterMap_congr fun cursor _ => ?_
  cases rules.errorAt? text cursor.ancestors cursor.node <;> rfl

variable {rules} {text} {wider : Rules}

/-- What hides a part of a tree is a matter of grammar and markup alone. -/
theorem examined_congr (rules wider : Rules) (hGrammar : wider.grammar = rules.grammar)
    (hMarkup : wider.markup = rules.markup) (root : Node) :
    wider.examined text root = rules.examined text root := by
  have hHides : wider.hidesBelow = rules.hidesBelow := by
    funext node
    rw [hidesBelow, hidesBelow, rejectsMarkup, rejectsMarkup, hGrammar, hMarkup]
  rw [examined_eq, examined_eq, hHides]

/-- **Errors are compared position by position.** -/
theorem reports_eq_filter {root : Node} (keep : Cursor × BuildError → Bool)
    (hGrammar : wider.grammar = rules.grammar) (hMarkup : wider.markup = rules.markup)
    (hKeep : ∀ cursor ∈ root.positions,
      wider.errorAt? text cursor.ancestors cursor.node =
        (rules.errorAt? text cursor.ancestors cursor.node).filter fun error =>
          keep (cursor, error)) :
    wider.reports text root = (rules.reports text root).filter keep := by
  rw [reports, reports, examined_congr rules wider hGrammar hMarkup, List.filter_filterMap]
  refine List.filterMap_congr fun cursor hSeen => ?_
  have hMem : cursor ∈ root.positions := by
    rw [examined_eq, Cursor.mem_seen] at hSeen
    exact hSeen.1
  rw [hKeep cursor hMem]
  cases rules.errorAt? text cursor.ancestors cursor.node with
  | none => rfl
  | some error => cases hError : keep (cursor, error) <;> simp [Option.filter, hError]

/-- At one position: a fault is reported by any rules, and a node without a name by none. -/
theorem errorAt?_eq_filter {ancestors : List Node} {node : Node} {keep : BuildError → Bool}
    (hFault : isFault node = true → keep (recoveryError text node) = true)
    (hBreach : isFault node = false → node.isNamed = true →
      (wider.breach? text ancestors node).map (·.report text node) =
        ((rules.breach? text ancestors node).map (·.report text node)).filter keep) :
    wider.errorAt? text ancestors node = (rules.errorAt? text ancestors node).filter keep := by
  rw [errorAt?, errorAt?]
  cases hIs : isFault node with
  | true => simp [Option.filter, hFault hIs]
  | false =>
    cases hNamed : node.isNamed with
    | true => simpa using hBreach hIs hNamed
    | false => rfl

/-! ### Editions -/

/-- The first rule that a named node breaks whatever the edition. -/
def lastingBreach? (rules : Rules) (text : List Char) (ancestors : List Node) (node : Node) :
    Option Breach :=
  if !rules.isModule && isModuleOnly text node then some .moduleOnly
  else if rules.isModule && node.kind == "with_statement" then some .withInModule
  else if rules.rejectsMarkup node then some .markup
  else if node.kind == "return_statement" && !rules.globalReturn &&
      !Syntax.withinFunction ancestors then some .returnOutsideFunction
  else none

/-- The edition is the last thing looked at. -/
theorem breach?_eq_or (rules : Rules) (text : List Char) (ancestors : List Node) (node : Node) :
    rules.breach? text ancestors node =
      (rules.lastingBreach? text ancestors node).or
        (if rules.isTooNew text ancestors node then some .tooNew else none) := by
  rw [breach?, lastingBreach?]
  split
  · rfl
  split
  · rfl
  split
  · rfl
  split
  · rfl
  · rfl

/-- Whether a position is too new for the edition of the rules but not for a later one: its node is
named and no fault, it breaks no rule but perhaps that on editions, and its syntax came in after the
one edition and not after the other. -/
def broughtInBy (rules : Rules) (text : List Char) (later : Nat) (cursor : Cursor) : Bool :=
  !isFault cursor.node && cursor.node.isNamed &&
    (rules.lastingBreach? text cursor.ancestors cursor.node).isNone &&
    (introduced? text cursor.ancestors cursor.node).any fun year =>
      decide (rules.year < year ∧ year ≤ later)

/-- **A newer edition** takes back the errors of what it brings in, and no others. -/
theorem reports_later {later : Nat} (hGrammar : rules.grammar = .javaScript)
    (hYear : rules.year ≤ later) (root : Node) :
    ({ rules with year := later } : Rules).reports text root =
      (rules.reports text root).filter fun report => !rules.broughtInBy text later report.1 := by
  refine reports_eq_filter _ rfl rfl fun cursor _ => ?_
  obtain ⟨node, path⟩ := cursor
  refine errorAt?_eq_filter ?_ ?_
  · intro hFault
    simp [broughtInBy, hFault]
  · intro hFault hNamed
    have hLasting : ({ rules with year := later } : Rules).lastingBreach? text
        (Cursor.ancestors ⟨node, path⟩) node =
          rules.lastingBreach? text (Cursor.ancestors ⟨node, path⟩) node := rfl
    rw [breach?_eq_or, breach?_eq_or, hLasting]
    simp only [broughtInBy, hFault, hNamed, Bool.not_false, Bool.true_and]
    cases rules.lastingBreach? text (Cursor.ancestors ⟨node, path⟩) node with
    | some breach => rfl
    | none =>
      simp only [isTooNew, hGrammar, beq_self_eq_true, Bool.true_and, Option.none_or]
      cases introduced? text (Cursor.ancestors ⟨node, path⟩) node with
      | none => rfl
      | some year =>
        by_cases hOld : year ≤ rules.year
        · have hLater : year ≤ later := Nat.le_trans hOld hYear
          simp [Nat.not_lt.mpr hOld, Nat.not_lt.mpr hLater]
        · by_cases hLater : year ≤ later
          · simp [Nat.lt_of_not_le hOld, Nat.not_lt.mpr hLater, hLater]
          · simp [Nat.lt_of_not_le hOld, Nat.lt_of_not_le hLater, hLater, Option.filter]

/-- **With types** the edition changes nothing. -/
theorem reports_year_irrel (hGrammar : rules.grammar ≠ .javaScript) (year : Nat) (root : Node) :
    ({ rules with year := year } : Rules).reports text root = rules.reports text root := by
  have hTooNew : ∀ other : Rules, other.grammar = rules.grammar → ∀ ancestors node,
      other.isTooNew text ancestors node = false := by
    intro other hSame ancestors node
    simp [isTooNew, hSame, hGrammar]
  rw [reports, reports, examined_congr rules { rules with year := year } rfl rfl]
  refine List.filterMap_congr fun cursor _ => ?_
  rw [errorAt?, errorAt?, breach?_eq_or, breach?_eq_or, hTooNew rules rfl,
    hTooNew { rules with year := year } rfl]
  rfl

/-! ### Global returns -/

/-- A return is of every edition. -/
theorem introduced?_of_return {ancestors : List Node} {node : Node}
    (hKind : node.kind = "return_statement") : introduced? text ancestors node = none := by
  have hForm : formYear? text ancestors node = none := by
    rw [formYear?, hKind]
    rfl
  have hAsync : isAsyncFunction node = false := by
    rw [isAsyncFunction, hKind]
    rfl
  rw [introduced?, hForm, hAsync]
  rfl

theorem breach?_globalReturn (rules : Rules) (text : List Char) (ancestors : List Node)
    (node : Node) :
    ({ rules with globalReturn := true } : Rules).breach? text ancestors node =
      (rules.breach? text ancestors node).filter fun breach =>
        decide (breach ≠ .returnOutsideFunction) := by
  have hMarkup : ({ rules with globalReturn := true } : Rules).rejectsMarkup node =
      rules.rejectsMarkup node := rfl
  have hTooNew : ({ rules with globalReturn := true } : Rules).isTooNew text ancestors node =
      rules.isTooNew text ancestors node := rfl
  simp only [breach?, hMarkup, hTooNew, Bool.not_true, Bool.and_false, Bool.false_and,
    Bool.false_eq_true, if_false]
  split
  · rfl
  split
  · rfl
  split
  · rfl
  by_cases hReturn : (node.kind == "return_statement" && !rules.globalReturn &&
      !Syntax.withinFunction ancestors) = true
  · have hKind : node.kind = "return_statement" := by
      simp only [Bool.and_eq_true, beq_iff_eq] at hReturn
      exact hReturn.1.1
    have hOld : rules.isTooNew text ancestors node = false := by
      rw [isTooNew, introduced?_of_return hKind]
      simp
    rw [if_pos hReturn, hOld]
    rfl
  · rw [if_neg hReturn]
    split <;> rfl

/-- **Global returns** take back the illegal returns. -/
theorem reports_globalReturn (root : Node) :
    ({ rules with globalReturn := true } : Rules).reports text root =
      (rules.reports text root).filter fun report =>
        decide (report.2.description? ≠ some illegalReturn) := by
  refine reports_eq_filter _ rfl rfl fun cursor _ => ?_
  refine errorAt?_eq_filter ?_ ?_
  · intro _
    exact decide_eq_true (description?_recoveryError_ne text cursor.node)
  · intro _ _
    rw [breach?_globalReturn]
    cases rules.breach? text cursor.ancestors cursor.node with
    | none => rfl
    | some breach =>
      by_cases hReturn : breach = .returnOutsideFunction
      · simp [Option.filter, description?_report, hReturn]
      · simp [Option.filter, description?_report, hReturn]

/-! ### Modules -/

/-- What only modules have is neither markup nor a return. -/
theorem kind_of_isModuleOnly {node : Node} (h : isModuleOnly text node = true) :
    node.kind ∈ ["import_statement", "export_statement", "meta_property", "member_expression"] := by
  rw [isModuleOnly, Bool.or_eq_true, Bool.or_eq_true, beq_iff_eq, beq_iff_eq, isImportMeta] at h
  rcases h with (hImport | hExport) | hMeta
  · simp [hImport]
  · simp [hExport]
  · split at hMeta
    · simp [*]
    · simp [*]
    · cases hMeta

/-- In a module, what only modules have is held to the edition; anything but a `with` is held to the
same rules. -/
theorem breach?_module {ancestors : List Node} {node : Node} (hScript : rules.isModule = false)
    (hWith : node.kind ≠ "with_statement") :
    ({ rules with isModule := true } : Rules).breach? text ancestors node =
      if isModuleOnly text node then
        if rules.isTooNew text ancestors node then some .tooNew else none
      else rules.breach? text ancestors node := by
  have hMarkup : ({ rules with isModule := true } : Rules).rejectsMarkup node =
      rules.rejectsMarkup node := rfl
  have hTooNew : ({ rules with isModule := true } : Rules).isTooNew text ancestors node =
      rules.isTooNew text ancestors node := rfl
  have hNoWith : (node.kind == "with_statement") = false := beq_false_of_ne hWith
  simp only [breach?, hMarkup, hTooNew, hScript, hNoWith, Bool.not_true, Bool.not_false,
    Bool.false_and, Bool.true_and, Bool.false_eq_true, if_false]
  by_cases hModuleOnly : isModuleOnly text node = true
  · have hKind := kind_of_isModuleOnly hModuleOnly
    simp only [List.mem_cons, List.not_mem_nil, or_false] at hKind
    have hNoMarkup : rules.rejectsMarkup node = false := by
      rcases hKind with h | h | h | h <;> simp [rejectsMarkup, h]
    have hNoReturn : (node.kind == "return_statement") = false := by
      rcases hKind with h | h | h | h <;> simp [h]
    simp [hModuleOnly, hNoMarkup, hNoReturn]
  · simp only [if_neg hModuleOnly]

/-- Whether a position is reported in a script for being of modules only, its edition being no
reason to. -/
def onlyForModules (rules : Rules) (text : List Char) (cursor : Cursor) : Bool :=
  !isFault cursor.node && cursor.node.isNamed && isModuleOnly text cursor.node &&
    !rules.isTooNew text cursor.ancestors cursor.node

/-- **Modules** take back what is for modules only, unless the edition is too old for it all the
same. -/
theorem reports_module {root : Node} (hScript : rules.isModule = false)
    (hWith : ∀ cursor ∈ root.positions, cursor.node.kind ≠ "with_statement") :
    ({ rules with isModule := true } : Rules).reports text root =
      (rules.reports text root).filter fun report => !rules.onlyForModules text report.1 := by
  refine reports_eq_filter _ rfl rfl fun cursor hMem => ?_
  refine errorAt?_eq_filter ?_ ?_
  · intro hFault
    simp [onlyForModules, hFault]
  · intro hFault hNamed
    rw [breach?_module hScript (hWith cursor hMem)]
    simp only [onlyForModules, hFault, hNamed, Bool.not_false, Bool.true_and]
    by_cases hModuleOnly : isModuleOnly text cursor.node = true
    · have hBreach : rules.breach? text cursor.ancestors cursor.node = some .moduleOnly := by
        simp [breach?, hScript, hModuleOnly]
      rw [if_pos hModuleOnly, hBreach, hModuleOnly]
      -- Both reports are the one error on the node's offence.
      cases rules.isTooNew text cursor.ancestors cursor.node <;> rfl
    · rw [if_neg hModuleOnly, Bool.eq_false_iff.mpr hModuleOnly]
      cases rules.breach? text cursor.ancestors cursor.node <;> rfl

/-! ### All together -/

/-- Rules that permit what others do to a tree: the grammar and the view of markup are the same, the
edition is no older, global returns and modules stay, and what becomes a module has no `with`. -/
structure MorePermissive (rules wider : Rules) (root : Node) : Prop where
  grammar : wider.grammar = rules.grammar
  markup : wider.markup = rules.markup
  year : rules.year ≤ wider.year
  globalReturn : rules.globalReturn = true → wider.globalReturn = true
  isModule : rules.isModule = true → wider.isModule = true
  noWith : rules.isModule = false → wider.isModule = true →
    ∀ cursor ∈ root.positions, cursor.node.kind ≠ "with_statement"

variable (rules text)

theorem reports_later_sublist {later : Nat} (hYear : rules.year ≤ later) (root : Node) :
    (({ rules with year := later } : Rules).reports text root).Sublist
      (rules.reports text root) := by
  by_cases hGrammar : rules.grammar = .javaScript
  · rw [reports_later hGrammar hYear]
    exact List.filter_sublist
  · rw [reports_year_irrel hGrammar]

theorem reports_globalReturn_sublist {globalReturn : Bool}
    (hKeep : rules.globalReturn = true → globalReturn = true) (root : Node) :
    (({ rules with globalReturn := globalReturn } : Rules).reports text root).Sublist
      (rules.reports text root) := by
  cases globalReturn with
  | true =>
    rw [reports_globalReturn]
    exact List.filter_sublist
  | false =>
    have hOff : rules.globalReturn = false := Bool.eq_false_iff.mpr fun h => by cases hKeep h
    rw [← hOff]

theorem reports_module_sublist {root : Node} {isModule : Bool}
    (hKeep : rules.isModule = true → isModule = true)
    (hWith : rules.isModule = false → isModule = true →
      ∀ cursor ∈ root.positions, cursor.node.kind ≠ "with_statement") :
    (({ rules with isModule := isModule } : Rules).reports text root).Sublist
      (rules.reports text root) := by
  by_cases hSame : isModule = rules.isModule
  · rw [hSame]
  · cases hScript : rules.isModule with
    | true => exact absurd ((hKeep hScript).trans hScript.symm) hSame
    | false =>
      have hModule : isModule = true := by
        rw [hScript] at hSame
        cases isModule with
        | true => rfl
        | false => exact absurd rfl hSame
      rw [hModule, reports_module hScript (hWith hScript hModule)]
      exact List.filter_sublist

/-- **More permissive rules** report some of the errors, in the same order. -/
theorem reports_sublist {root : Node} (h : MorePermissive rules wider root) :
    (wider.reports text root).Sublist (rules.reports text root) := by
  let later : Rules := { rules with year := wider.year }
  let returning : Rules := { later with globalReturn := wider.globalReturn }
  have hLater : (later.reports text root).Sublist (rules.reports text root) :=
    reports_later_sublist rules text h.year root
  have hReturning : (returning.reports text root).Sublist (later.reports text root) :=
    reports_globalReturn_sublist later text h.globalReturn root
  have hWider : wider = { returning with isModule := wider.isModule } := by
    obtain ⟨hGrammar, hMarkup, -, -, -, -⟩ := h
    cases wider
    cases hGrammar
    cases hMarkup
    rfl
  have hModule :
      (({ returning with isModule := wider.isModule } : Rules).reports text root).Sublist
        (returning.reports text root) :=
    reports_module_sublist returning text h.isModule h.noWith
  rw [hWider]
  exact (hModule.trans hReturning).trans hLater

/-- **Dialects with the same grammar and the same view of markup** have rules that differ in the year, in
what a module is and in global returns, and in nothing else. -/
theorem ofDialect_update {dialect other : Dialect} {rules wider : Rules}
    (hRules : Rules.ofDialect dialect = .ok rules) (hWider : Rules.ofDialect other = .ok wider)
    (hGrammar : Grammar.ofDialect other = .ofDialect dialect)
    (hMarkup : other.hasFeature "jsx" = dialect.hasFeature "jsx") :
    wider = { rules with
      year := wider.year
      isModule := other.isModule
      globalReturn := other.hasFeature "globalReturn" } := by
  obtain ⟨-, hFrom, -, hFromMarkup, -⟩ := ofDialect_eq_ok_iff.mp hRules
  obtain ⟨-, hTo, hModule, hToMarkup, hReturn⟩ := ofDialect_eq_ok_iff.mp hWider
  have hSameGrammar : wider.grammar = rules.grammar := by rw [hTo, hGrammar, hFrom]
  have hSameMarkup : wider.markup = rules.markup := by rw [hToMarkup, hMarkup, hFromMarkup]
  rw [← hModule, ← hReturn, ← hSameGrammar, ← hSameMarkup]

/-- **Being more permissive only takes errors back, and just these.**  For the plain grammar, a newer
edition takes back the errors at named nodes that no other rule is broken at and whose syntax came
in since.  With types the edition changes nothing.  Global returns take back the illegal returns.
In a tree without `with`, modules take back what is for modules only, unless the edition is too old
for it all the same.  Two dialects with the same grammar and the same view of markup have rules that
differ in nothing else.  So what builds strictly builds under any more permissive dialect too, to the
same tree. -/
theorem reports_of_permissive (rules : Rules) (text : List Char) (root : Node) :
    (∀ others : Rules, others.check text root = (others.reports text root).map Prod.snd) ∧
    (∀ later, rules.grammar = .javaScript → rules.year ≤ later →
      ({ rules with year := later } : Rules).reports text root =
        (rules.reports text root).filter fun report => !rules.broughtInBy text later report.1) ∧
    (∀ year, rules.grammar ≠ .javaScript →
      ({ rules with year := year } : Rules).reports text root = rules.reports text root) ∧
    ({ rules with globalReturn := true } : Rules).reports text root =
      (rules.reports text root).filter (fun report =>
        decide (report.2.description? ≠ some illegalReturn)) ∧
    (rules.isModule = false →
      (∀ cursor ∈ root.positions, cursor.node.kind ≠ "with_statement") →
      ({ rules with isModule := true } : Rules).reports text root =
        (rules.reports text root).filter fun report => !rules.onlyForModules text report.1) ∧
    (∀ (dialect other : Dialect) (wider : Rules), Rules.ofDialect dialect = .ok rules →
      Rules.ofDialect other = .ok wider →
      Grammar.ofDialect other = .ofDialect dialect →
      other.hasFeature "jsx" = dialect.hasFeature "jsx" →
      wider = { rules with
        year := wider.year
        isModule := other.isModule
        globalReturn := other.hasFeature "globalReturn" } ∧
      yearOf dialect.version = .ok rules.year ∧ yearOf other.version = .ok wider.year ∧
      rules.isModule = dialect.isModule ∧
      rules.globalReturn = dialect.hasFeature "globalReturn") ∧
    ∀ (parse : Parser) (code : String) (dialect other : Dialect) (wider : Rules)
      (tree : SyntaxTree), Rules.ofDialect dialect = .ok rules →
      Rules.ofDialect other = .ok wider → dialect.isTolerant = false →
      MorePermissive rules wider (parse rules.grammar code) →
      SyntaxTree.build parse code dialect = .ok tree →
      SyntaxTree.build parse code other = .ok tree := by
  refine ⟨fun others => (others.map_reports text root).symm, ?_, ?_, ?_, ?_, ?_, ?_⟩
  · exact fun later hGrammar hYear => reports_later hGrammar hYear root
  · exact fun year hGrammar => reports_year_irrel hGrammar year root
  · exact reports_globalReturn root
  · exact fun hScript hWith => reports_module hScript hWith
  · intro dialect other wider hRules hWider hGrammar hMarkup
    obtain ⟨hYear, -, hModule, -, hReturn⟩ := ofDialect_eq_ok_iff.mp hRules
    exact ⟨ofDialect_update hRules hWider hGrammar hMarkup, hYear,
      (ofDialect_eq_ok_iff.mp hWider).1, hModule, hReturn⟩
  · intro parse code dialect other wider tree hRules hWider hStrict hPermissive hTree
    have hNone : (SyntaxTree.checked parse rules code).errors = [] :=
      (SyntaxTree.exists_build_iff hRules hStrict).mp ⟨tree, hTree⟩
    rw [SyntaxTree.build_strict_of_nil hRules hNone] at hTree
    obtain rfl := Except.ok.inj hTree
    have hSub := (reports_sublist rules code.toList hPermissive).map Prod.snd
    rw [map_reports, map_reports, show rules.check _ _ = [] from hNone, List.sublist_nil] at hSub
    have hSame : SyntaxTree.checked parse wider code = SyntaxTree.checked parse rules code := by
      rw [SyntaxTree.checked, SyntaxTree.checked, hPermissive.grammar, hSub,
        show rules.check _ _ = [] from hNone]
    have hOther : (SyntaxTree.checked parse wider code).errors = [] := by
      rw [hSame, hNone]
    rw [← hSame]
    exact SyntaxTree.build_strict_of_nil hWider hOther

/-- The rules of the edition of 2009. -/
def early : Rules := { plain with year := 2009 }

/-- A program that imports, declares and returns. -/
def importLetReturn : Node :=
  .mk { kind := "program", start := 0, stop := 23 } [
    .mk { kind := "import_statement", start := 0, stop := 11 } [
      .mk { kind := "import", named := false, start := 0, stop := 6 } []],
    .mk { kind := "lexical_declaration", start := 11, stop := 17 } [
      .mk { kind := "let", named := false, start := 11, stop := 14 } []],
    .mk { kind := "return_statement", start := 17, stop := 23 } []]

/-- A program that is a name. -/
def nameAlone : Node :=
  .mk { kind := "program", start := 0, stop := 1 } [
    .mk { kind := "identifier", start := 0, stop := 1 } []]

/-- The edition of 2015 takes the declaration back and global returns the return.  In a module the
edition of 2009 is still too old for the import.  A name builds under either dialect, and the rules of
the later one are those of the earlier but for the year and the module. -/
theorem reports_of_permissive_import :
    let text := "import 'a';let b;return".toList
    let first := Dialect.ofOptions { language := some { version := some 5 } }
    let later := Dialect.ofOptions
      { language := some { version := some 2015, sourceType := some .module } }
    let unexpectedImport := BuildError.malformed 1 1 0 "Unexpected token import"
    let unexpectedLet := BuildError.malformed 1 12 11 "Unexpected token let"
    let illegal := BuildError.malformed 1 18 17 "Illegal return statement"
    early.check text importLetReturn = [unexpectedImport, unexpectedLet, illegal] ∧
    ({ early with year := 2015 } : Rules).check text importLetReturn =
      [unexpectedImport, illegal] ∧
    ({ early with globalReturn := true } : Rules).check text importLetReturn =
      [unexpectedImport, unexpectedLet] ∧
    ({ early with isModule := true } : Rules).check text importLetReturn =
      [unexpectedImport, unexpectedLet, illegal] ∧
    ({ early with grammar := .tsx, year := 2015 } : Rules).check text importLetReturn =
      ({ early with grammar := .tsx } : Rules).check text importLetReturn ∧
    Rules.ofDialect first = .ok early ∧
    (∀ wider, Rules.ofDialect later = .ok wider →
      wider = { early with year := wider.year, isModule := true }) ∧
    ∃ tree, SyntaxTree.build (fun _ _ => nameAlone) "a" later = .ok tree := by
  intro text first later unexpectedImport unexpectedLet illegal
  obtain ⟨hChecks, hLater, -, hReturn, hModule, hUpdate, -⟩ :=
    reports_of_permissive early text importLetReturn
  obtain ⟨hTyped, -, hYear, -, -, -, -⟩ :=
    reports_of_permissive { early with grammar := .tsx } text importLetReturn
  obtain ⟨-, -, -, -, -, -, hBuild⟩ := reports_of_permissive early "a".toList nameAlone
  have hNoWith : ∀ cursor ∈ importLetReturn.positions, cursor.node.kind ≠ "with_statement" := by
    decide +kernel
  refine ⟨?_, ?_, ?_, ?_, ?_, rfl, ?_, ?_⟩
  · decide +kernel
  · rw [hChecks, hLater 2015 rfl (by decide)]
    decide +kernel
  · rw [hChecks, hReturn]
    decide +kernel
  · rw [hChecks, hModule rfl hNoWith]
    decide +kernel
  · rw [hTyped, hYear 2015 (by decide), ← hTyped]
  · intro wider hWider
    exact (hUpdate first later wider rfl hWider rfl rfl).1
  · have hStrict : SyntaxTree.build (fun _ _ => nameAlone) "a" first =
        .ok (.checked (fun _ _ => nameAlone) early "a") :=
      SyntaxTree.build_strict_of_nil rfl (by decide +kernel)
    refine ⟨_, hBuild _ "a" _ _ { early with year := 2015, isModule := true } _ rfl rfl rfl ?_
      hStrict⟩
    refine ⟨rfl, rfl, by decide, by decide, by decide, ?_⟩
    intro _ _
    decide +kernel

end Rules

end ScriptAnalysis
