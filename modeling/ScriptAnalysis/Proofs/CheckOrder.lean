import Mathlib.Data.List.Basic
import ScriptAnalysis.Proofs.Build
import ScriptAnalysis.Proofs.Positions

/-!
# The order of a check

A check goes over the positions of a tree in the order of the text and looks under a node unless
the node hides what lies there (`hidesBelow`): a fault does, and so does rejected markup.  A node
that hides something is reported itself, so nothing that is wrong with a tree goes unnoticed.

* `check_eq`: the errors of a check are those at the positions it examines.
* `check_eq_nil_iff`: there are none just when no node of the whole tree has one.
* `check_pruned_preorder`: which positions are examined, what is reported of each, and when a strict
  build succeeds.
-/

namespace ScriptAnalysis

open Syntax (Cursor Label Node Visitor)

namespace Rules

variable (rules : Rules) (text : List Char)

/-! ### One node -/

/-- Whether a node hides what lies under it: a fault does, and markup that the dialect rejects. -/
def hidesBelow (node : Node) : Bool :=
  isFault node || (node.isNamed && rules.rejectsMarkup node)

/-- Rejected markup breaks a rule, if not the one on markup then one before it. -/
theorem breach?_isSome_of_rejectsMarkup (ancestors : List Node) {node : Node}
    (h : rules.rejectsMarkup node = true) :
    (rules.breach? text ancestors node).isSome = true := by
  rw [breach?]
  split
  · rfl
  split
  · rfl
  · rfl

/-- A check looks under a node unless the node hides what lies there. -/
theorem looksBelow_eq (ancestors : List Node) (node : Node) :
    rules.looksBelow text ancestors node = !rules.hidesBelow node := by
  rw [looksBelow, hidesBelow]
  cases isFault node with
  | true => rfl
  | false =>
    cases hMarkup : rules.rejectsMarkup node with
    | true =>
      -- The check turns back only at a node with an error, which rejected markup always has.
      rw [rules.breach?_isSome_of_rejectsMarkup text ancestors hMarkup]
      cases node.isNamed <;> rfl
    | false => cases (rules.breach? text ancestors node).isSome <;> cases node.isNamed <;> rfl

/-- A node is in order when it is no fault and, if named, breaks no rule. -/
theorem errorAt?_eq_none_iff (ancestors : List Node) (node : Node) :
    rules.errorAt? text ancestors node = none ↔
      isFault node = false ∧ (node.isNamed = true → rules.breach? text ancestors node = none) := by
  rw [errorAt?]
  cases isFault node with
  | true => simp
  | false => cases node.isNamed <;> simp

/-- **What hides something is reported itself.** -/
theorem errorAt?_isSome_of_hidesBelow (ancestors : List Node) {node : Node}
    (h : rules.hidesBelow node = true) : (rules.errorAt? text ancestors node).isSome = true := by
  rw [Option.isSome_iff_ne_none, ne_eq, errorAt?_eq_none_iff]
  rintro ⟨hFault, hBreach⟩
  rw [hidesBelow, hFault, Bool.false_or, Bool.and_eq_true] at h
  have hSome := rules.breach?_isSome_of_rejectsMarkup text ancestors h.2
  rw [hBreach h.1] at hSome
  cases hSome

/-! ### The whole tree -/

/-- The positions that a check examines. -/
def examined (root : Node) : List Cursor := (rules.checker text).stops (.atRoot root)

theorem examined_eq (root : Node) :
    rules.examined text root = Cursor.seen rules.hidesBelow root.positions :=
  Visitor.stops_atRoot (rules.looksBelow_eq text) root

/-- **The errors of a check** are those at the positions it examines. -/
theorem check_eq (root : Node) :
    rules.check text root = (rules.examined text root).filterMap fun cursor =>
      rules.errorAt? text cursor.ancestors cursor.node := by
  rw [check, Visitor.run_eq_stops fun _ _ => rfl, examined, List.filterMap_eq_flatMap_toList]
  rfl

/-- What is not examined is below a position that is, and that is reported. -/
theorem exists_reported_above {root : Node} {cursor : Cursor} (hMem : cursor ∈ root.positions)
    (hUnseen : cursor ∉ rules.examined text root) :
    ∃ above ∈ rules.examined text root, Cursor.Above above cursor ∧
      (rules.errorAt? text above.ancestors above.node).isSome = true := by
  rw [examined_eq, Cursor.mem_seen] at hUnseen
  have hHidden : cursor.ancestors.any rules.hidesBelow = true := by
    cases hAny : cursor.ancestors.any rules.hidesBelow with
    | true => rfl
    | false => exact absurd ⟨hMem, hAny⟩ hUnseen
  obtain ⟨above, hAbove, hUp, hSeen, hHides⟩ := Cursor.exists_above_of_hidden cursor hMem hHidden
  refine ⟨above, ?_, hUp, rules.errorAt?_isSome_of_hidesBelow text _ hHides⟩
  rw [examined_eq, Cursor.mem_seen]
  exact ⟨hAbove, hSeen⟩

/-- **A check finds nothing** just when there is nothing to be found in the whole tree. -/
theorem check_eq_nil_iff (root : Node) :
    rules.check text root = [] ↔
      ∀ cursor ∈ root.positions, rules.errorAt? text cursor.ancestors cursor.node = none := by
  rw [check_eq, List.filterMap_eq_nil_iff]
  refine ⟨?_, ?_⟩
  · intro hNone cursor hMem
    by_cases hSeen : cursor ∈ rules.examined text root
    · exact hNone cursor hSeen
    · obtain ⟨above, hAbove, -, hSome⟩ := rules.exists_reported_above text hMem hSeen
      rw [hNone above hAbove] at hSome
      cases hSome
  · intro hNone cursor hSeen
    rw [examined_eq, Cursor.mem_seen] at hSeen
    exact hNone cursor hSeen.1

/-- **A check is a pruned preorder, and pruning hides nothing.**  It examines, each once and in the
order of the text, the positions with no fault and no rejected markup above them, and reports of
each its fault, or else the rule that it breaks if it is named.  A position that is not examined is
below one that is reported.  So the check finds nothing, and a strict build succeeds, just when in
the whole tree no node is a fault and no named node breaks a rule. -/
theorem check_pruned_preorder (rules : Rules) (text : List Char) (root : Node) :
    let examined := (rules.checker text).stops (.atRoot root)
    let InOrder := ∀ cursor ∈ root.positions, isFault cursor.node = false ∧
      (cursor.node.isNamed = true → rules.breach? text cursor.ancestors cursor.node = none)
    examined = root.positions.filter (fun cursor => !cursor.ancestors.any fun node =>
      node.isError || node.isMissing || (node.isNamed && rules.rejectsMarkup node)) ∧
    examined.Nodup ∧ examined.length ≤ root.size ∧
    rules.check text root = examined.filterMap (fun cursor =>
      if isFault cursor.node then some (recoveryError text cursor.node)
      else if cursor.node.isNamed then
        (rules.breach? text cursor.ancestors cursor.node).map (·.report text cursor.node)
      else none) ∧
    (∀ cursor ∈ root.positions, cursor ∉ examined → ∃ above ∈ examined, Cursor.Above above cursor ∧
      (rules.errorAt? text above.ancestors above.node).isSome = true) ∧
    (rules.check text root = [] ↔ InOrder) ∧
    ∀ (parse : Parser) (code : String) (dialect : Dialect), Rules.ofDialect dialect = .ok rules →
      dialect.isTolerant = false → parse rules.grammar code = root → code.toList = text →
      ((∃ tree, SyntaxTree.build parse code dialect = .ok tree) ↔ InOrder) := by
  intro examined InOrder
  have hExamined : examined = Cursor.seen rules.hidesBelow root.positions :=
    rules.examined_eq text root
  have hNone : rules.check text root = [] ↔ InOrder := by
    rw [check_eq_nil_iff]
    exact forall₂_congr fun cursor _ => rules.errorAt?_eq_none_iff text cursor.ancestors cursor.node
  refine ⟨hExamined, Visitor.nodup_stops _, ?_, rules.check_eq text root, ?_, hNone, ?_⟩
  · rw [hExamined, ← root.length_positionsAt []]
    exact List.length_filter_le _ _
  · intro cursor hMem hUnseen
    exact rules.exists_reported_above text hMem hUnseen
  · intro parse code dialect hRules hStrict hRoot hText
    subst hRoot hText
    rw [SyntaxTree.exists_build_iff hRules hStrict]
    exact hNone

/-- The rules of a dialect that asks for nothing. -/
def plain : Rules where
  grammar := .javaScript
  year := latestYear
  isModule := false
  markup := false
  globalReturn := false

/-- A program that is an element of markup with a fault in it. -/
def faultInMarkup : Node :=
  .mk { kind := "program", start := 0, stop := 8 } [
    .mk { kind := "jsx_element", start := 0, stop := 8 } [
      .mk { kind := "ERROR", error := true, start := 3, stop := 4 } []]]

/-- The check stops at the markup, and a strict build fails. -/
theorem check_pruned_preorder_of_markup :
    Rules.ofDialect (.ofOptions {}) = .ok plain ∧
    ((plain.checker "<a>?</a>".toList).stops (.atRoot faultInMarkup)).length = 2 ∧
    plain.check "<a>?</a>".toList faultInMarkup = [.malformed 1 1 0 "Unexpected token <"] ∧
    ¬∃ tree, SyntaxTree.build (fun _ _ => faultInMarkup) "<a>?</a>" (.ofOptions {}) =
      .ok tree := by
  obtain ⟨hExamined, -, -, -, -, hNone, hBuild⟩ :=
    check_pruned_preorder plain "<a>?</a>".toList faultInMarkup
  have hCheck : plain.check "<a>?</a>".toList faultInMarkup =
      [.malformed 1 1 0 "Unexpected token <"] := by
    decide +kernel
  refine ⟨rfl, ?_, hCheck, ?_⟩
  · rw [hExamined]
    decide +kernel
  · rw [hBuild (fun _ _ => faultInMarkup) "<a>?</a>" (.ofOptions {}) rfl rfl rfl rfl, ← hNone,
      hCheck]
    exact List.cons_ne_nil _ _

end Rules

end ScriptAnalysis
