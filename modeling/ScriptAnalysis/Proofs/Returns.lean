import ScriptAnalysis.Proofs.Below
import ScriptAnalysis.Proofs.OpenScopes
import ScriptAnalysis.Proofs.Permissiveness

/-!
# Returns and open scopes

A check finds out whether a return is inside a function by asking what is above it; a walk has a
scope open for each function that it is in.  The check asks for the kinds of nodes alone and the walk
for named nodes, which makes no difference where only named nodes have anything below them.

* `mem_reports_iff`: what a check reports at a position.
* `errorAt?_of_return`: a return is reported just when no function is above it.
* `withinFunction_iff`: a function is above a position just when a scope is open there.
* `reported_iff_none_open`: so the check and the walk agree on which returns are illegal.
-/

namespace ScriptAnalysis

open Syntax (Cursor Node withinFunction)
open Walk (Walker Scope closings openScopes scopes scopesUp)

/-! ### What a check reports of a return -/

namespace Rules

variable {rules : Rules} {text : List Char}

/-- **A report of a check** is the error at a position that nothing hides. -/
theorem mem_reports_iff {root : Node} {cursor : Cursor} {error : BuildError} :
    (cursor, error) ∈ rules.reports text root ↔
      (cursor ∈ root.positions ∧ cursor.ancestors.any rules.hidesBelow = false) ∧
        rules.errorAt? text cursor.ancestors cursor.node = some error := by
  rw [reports, List.mem_filterMap, examined_eq]
  constructor
  · rintro ⟨stop, hSeen, hReport⟩
    obtain ⟨found, hError, hPair⟩ := Option.map_eq_some_iff.mp hReport
    obtain ⟨rfl, rfl⟩ := Prod.mk.inj hPair
    exact ⟨Cursor.mem_seen.mp hSeen, hError⟩
  · rintro ⟨hSeen, hError⟩
    exact ⟨cursor, Cursor.mem_seen.mpr hSeen, by rw [hError]; rfl⟩

/-- **A return is reported** just when no function is above it. -/
theorem errorAt?_of_return {ancestors : List Node} {node : Node} (hOff : rules.globalReturn = false)
    (hKind : node.kind = "return_statement") (hNamed : node.isNamed = true)
    (hSound : isFault node = false) :
    rules.errorAt? text ancestors node =
      if withinFunction ancestors then none
      else some (.atOffset text node.start illegalReturn) := by
  have hModule : isModuleOnly text node = false := by
    simp [isModuleOnly, isImportMeta, hKind]
  have hMarkup : rules.rejectsMarkup node = false := by
    simp [rejectsMarkup, hKind]
  have hTooNew : rules.isTooNew text ancestors node = false := by
    simp [isTooNew, introduced?_of_return hKind]
  rw [errorAt?, hSound, hNamed, breach?, hModule, hMarkup, hTooNew, hKind, hOff]
  cases withinFunction ancestors <;> simp [Breach.report, illegalReturn]

end Rules

/-! ### What is open at a return -/

namespace Walk

/-- **A function is above** just when a scope is open, if only named nodes are above. -/
theorem withinFunction_iff (text : List Char) {nodes : List Node}
    (hNamed : ∀ node ∈ nodes, node.isNamed = true) :
    withinFunction nodes = true ↔ (scopesUp text nodes).length ≠ 0 := by
  rw [length_scopesUp, withinFunction, List.any_eq_true, ne_eq, List.countP_eq_zero, not_forall]
  constructor
  · rintro ⟨node, hMem, hOpens⟩
    refine ⟨node, ?_⟩
    simp [hMem, Scope.opensAt, hNamed node hMem, hOpens]
  · rintro ⟨node, hNode⟩
    simp only [not_forall, not_not, Scope.opensAt, Bool.and_eq_true] at hNode
    obtain ⟨hMem, -, hOpens⟩ := hNode
    exact ⟨node, hMem, hOpens⟩

namespace Walker

variable (walker : Walker) (text : List Char)

/-- When a node is entered, as many scopes have been opened and not closed as there are functions
from there up. -/
theorem opened_less_closed {root : Node} {cursor : Cursor} {before after : List (Cursor × Event)}
    (h : walker.account text root = before ++ (cursor, .entered cursor.node) :: after) :
    (scopesUp text (cursor.node :: cursor.ancestors)).length + closings (before.map Prod.snd) =
      (scopes (before.map Prod.snd)).length := by
  have hNever : ∀ n, closings ((before.map Prod.snd).take n) ≤
      (scopes ((before.map Prod.snd).take n)).length + 0 := by
    intro n
    have hTake := (walker.brackets_account text root).closings_take_le (min n before.length)
    have hLe : min n before.length ≤ (before.map Prod.snd).length := by
      rw [List.length_map]
      exact Nat.min_le_right _ _
    rw [h, List.map_append, List.take_append_of_le_length hLe] at hTake
    rw [List.take_eq_take_min, List.length_map]
    exact hTake
  have hLength := @length_foldl_openedAfter [] _ hNever
  have hOpen : openScopes (before.map Prod.snd) =
      scopesUp text (cursor.node :: cursor.ancestors) := walker.openScopes_eq text h
  rw [openScopes] at hOpen
  rw [hOpen] at hLength
  exact hLength

end Walker

end Walk

open Walk

namespace Rules

/-- **Checks and walks agree on what is inside a function.**  In a tree where only named nodes have
children, take a named return that is no fault and lies beneath no fault and no rejected markup.
Without global returns it is reported as illegal just when, on entering it, a walk has opened as many
scopes as it has closed. -/
theorem reported_iff_none_open (rules : Rules) (walker : Walker) (text : List Char) (root : Node)
    (hOff : rules.globalReturn = false)
    (hLeaves : ∀ node ∈ root.nodes, node.isNamed = false → node.children = [])
    {cursor : Cursor} (hMem : cursor ∈ root.positions)
    (hKind : cursor.node.kind = "return_statement") (hNamed : cursor.node.isNamed = true)
    (hSound : isFault cursor.node = false)
    (hShown : ∀ above ∈ cursor.ancestors,
      isFault above = false ∧ rules.rejectsMarkup above = false) :
    (rules.reports text root).map Prod.snd = rules.check text root ∧
    (walker.account text root).map Prod.snd = walker.walk text root ∧
    (∃ before after,
      walker.account text root = before ++ (cursor, .entered cursor.node) :: after) ∧
    ∀ before after, walker.account text root = before ++ (cursor, .entered cursor.node) :: after →
      closings (before.map Prod.snd) ≤ (scopes (before.map Prod.snd)).length ∧
      ((∃ error, (cursor, error) ∈ rules.reports text root ∧
          error.description? = some "Illegal return statement") ↔
        (scopes (before.map Prod.snd)).length - closings (before.map Prod.snd) = 0) := by
  have hTells : walker.tellsOf cursor.node = true := by
    rw [Walker.tellsOf, hNamed, Bool.or_true]
  have hAbove : ∀ node ∈ cursor.ancestors, node.isNamed = true := by
    intro node hNode
    obtain ⟨hIn, -, hInner⟩ := Cursor.mem_nodes_of_mem_ancestors hMem hNode
    by_contra hAnonymous
    exact hInner (hLeaves node hIn (Bool.eq_false_iff.mpr hAnonymous))
  have hSeen : cursor.ancestors.any rules.hidesBelow = false := by
    refine List.any_eq_false.mpr fun node hNode => ?_
    obtain ⟨hFault, hMarkup⟩ := hShown node hNode
    simp [hidesBelow, hFault, hMarkup]
  refine ⟨rules.map_reports text root, walker.map_account text root,
    List.append_of_mem (walker.entered_mem_account text hMem hTells), fun before after h => ?_⟩
  have hCount := walker.opened_less_closed text h
  -- A return opens no scope of its own.
  have hReturn : scopesUp text (cursor.node :: cursor.ancestors) =
      scopesUp text cursor.ancestors := by
    have hNone : Scope.opensAt cursor.node = false := by
      rw [Scope.opensAt, hKind, hNamed]
      rfl
    rw [scopesUp, hNone]
    rfl
  have hWithin := withinFunction_iff text hAbove
  have hError : rules.errorAt? text cursor.ancestors cursor.node = _ :=
    errorAt?_of_return hOff hKind hNamed hSound
  rw [hReturn] at hCount
  refine ⟨by omega, ?_⟩
  constructor
  · rintro ⟨error, hReport, -⟩
    have hSome := (mem_reports_iff.mp hReport).2
    rw [hError] at hSome
    cases hInside : withinFunction cursor.ancestors with
    | true => simp [hInside] at hSome
    | false =>
      have hNone := mt hWithin.mpr (by simp [hInside])
      omega
  · intro hNone
    have hOutside : withinFunction cursor.ancestors = false := by
      refine Bool.eq_false_iff.mpr fun hInside => hWithin.mp hInside ?_
      omega
    rw [hOutside] at hError
    exact ⟨_, mem_reports_iff.mpr ⟨⟨hMem, hSeen⟩, hError⟩, rfl⟩

/-- The code `function f() { return }; return`. -/
def twoReturns : Node :=
  .mk { kind := "program", start := 0, stop := 31 } [
    .mk { kind := "function_declaration", start := 0, stop := 23 } [
      .mk { kind := "function", named := false, start := 0, stop := 8 } [],
      .mk { kind := "identifier", start := 9, stop := 10, field := some "name" } [],
      .mk { kind := "formal_parameters", start := 10, stop := 12, field := some "parameters" } [
        .mk { kind := "(", named := false, start := 10, stop := 11 } [],
        .mk { kind := ")", named := false, start := 11, stop := 12 } []],
      .mk { kind := "statement_block", start := 13, stop := 23, field := some "body" } [
        .mk { kind := "\x7b", named := false, start := 13, stop := 14 } [],
        .mk { kind := "return_statement", start := 15, stop := 21 } [
          .mk { kind := "return", named := false, start := 15, stop := 21 } []],
        .mk { kind := "\x7d", named := false, start := 22, stop := 23 } []]],
    .mk { kind := "empty_statement", start := 23, stop := 24 } [
      .mk { kind := ";", named := false, start := 23, stop := 24 } []],
    .mk { kind := "return_statement", start := 25, stop := 31 } [
      .mk { kind := "return", named := false, start := 25, stop := 31 } []]]

/-- The return outside the function is entered with no scope open and reported, the other one is
neither; that the keyword `function` has the kind of a function makes no difference. -/
theorem reported_iff_none_open_of_twoReturns :
    let text := "function f() \x7b return \x7d; return".toList
    (plain.reports text twoReturns).map (·.1.node.start) = [25] ∧
    ∀ cursor ∈ twoReturns.positions, cursor.node.kind = "return_statement" →
      ∃ before after,
        Walker.ofAll.account text twoReturns =
          before ++ (cursor, .entered cursor.node) :: after ∧
        ((scopes (before.map Prod.snd)).length - closings (before.map Prod.snd) = 0 ↔
          cursor.node.start = 25) := by
  intro text
  refine ⟨by decide +kernel, fun cursor hMem hKind => ?_⟩
  have hLeaves : ∀ node ∈ twoReturns.nodes, node.isNamed = false → node.children = [] := by
    have hEmpty : ∀ node ∈ twoReturns.nodes, node.isNamed = false →
        node.children.isEmpty = true := by
      decide +kernel
    exact fun node hNode hAnonymous => List.isEmpty_iff.mp (hEmpty node hNode hAnonymous)
  have hPlain : ∀ cursor ∈ twoReturns.positions, cursor.node.kind = "return_statement" →
      cursor.node.isNamed = true ∧ isFault cursor.node = false ∧
        ∀ above ∈ cursor.ancestors,
          isFault above = false ∧ plain.rejectsMarkup above = false := by
    decide +kernel
  have hReported : ∀ report ∈ plain.reports text twoReturns, report.1.node.start = 25 := by
    decide +kernel
  have hOutside : ∀ cursor ∈ twoReturns.positions, cursor.node.kind = "return_statement" →
      cursor.node.start = 25 → cursor.ancestors.any plain.hidesBelow = false ∧
        plain.errorAt? text cursor.ancestors cursor.node =
          some (.malformed 1 26 25 "Illegal return statement") := by
    decide +kernel
  obtain ⟨hNamed, hSound, hShown⟩ := hPlain cursor hMem hKind
  obtain ⟨-, -, ⟨before, after, hEntered⟩, hEach⟩ := reported_iff_none_open plain Walker.ofAll text
    twoReturns rfl hLeaves hMem hKind hNamed hSound hShown
  refine ⟨before, after, hEntered, ?_⟩
  rw [← (hEach before after hEntered).2]
  constructor
  · rintro ⟨error, hReport, -⟩
    exact hReported _ hReport
  · intro hStart
    obtain ⟨hSeen, hError⟩ := hOutside cursor hMem hKind hStart
    exact ⟨_, mem_reports_iff.mpr ⟨⟨hMem, hSeen⟩, hError⟩, rfl⟩

end Rules

end ScriptAnalysis
