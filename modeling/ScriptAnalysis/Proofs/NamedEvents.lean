import ScriptAnalysis.Proofs.Brackets

/-!
# Walks over named nodes

A walk that tells of named nodes goes wherever one that tells of all nodes goes; it is only silent
on the nodes without a name.  So its events are those of the other walk without these, and a scope
stands where it stood among them, whatever the function is written in.

* `told_ofNamed`: at each moment of a tour the two tell the same but for unnamed nodes.
* `account_ofNamed`, `walk_ofNamed`: so they do on a whole walk.
* `named_walk_of_whole`: what becomes of scopes, and of named nodes below unnamed ones.
-/

namespace ScriptAnalysis.Walk

open Syntax (Cursor Moment Node)

namespace Event

/-- Whether a node without a name is entered or left. -/
def isOfUnnamed : Event → Bool
  | .entered node => !node.isNamed
  | .left node => !node.isNamed
  | .scopeOpened _ => false
  | .scopeClosed => false

/-- Whether a scope is opened or closed. -/
def isOfScope : Event → Bool
  | .entered _ => false
  | .left _ => false
  | .scopeOpened _ => true
  | .scopeClosed => true

theorem not_isOfUnnamed_of_isOfScope {event : Event} (h : event.isOfScope = true) :
    event.isOfUnnamed = false := by
  cases event with
  | entered node => cases h
  | left node => cases h
  | scopeOpened scope => rfl
  | scopeClosed => rfl

end Event

namespace Walker

variable (text : List Char)

/-- **At each moment** of a tour a walk over named nodes tells what one over all nodes does, but for
unnamed nodes.  A scope is opened by a test of its own, which does not ask what is told of. -/
theorem told_ofNamed (moment : Moment) :
    ofNamed.told text moment =
      (ofAll.told text moment).filter fun entry => !entry.2.isOfUnnamed := by
  cases moment with
  | entering cursor =>
    have hNamed : ofNamed.tellsOf cursor.node = cursor.node.isNamed := rfl
    have hAll : ofAll.tellsOf cursor.node = true := rfl
    rw [told_entering, told_entering, hNamed, hAll, if_pos rfl, List.filter_append]
    refine congrArg₂ (· ++ ·) ?_ ?_
    · cases Scope.opensAt cursor.node <;> rfl
    · rw [List.filter_singleton, Event.isOfUnnamed, Bool.not_not]
      cases cursor.node.isNamed <;> rfl
  | leaving cursor =>
    have hNamed : ofNamed.tellsOf cursor.node = cursor.node.isNamed := rfl
    have hAll : ofAll.tellsOf cursor.node = true := rfl
    rw [told_leaving, told_leaving, hNamed, hAll, if_pos rfl, List.filter_append]
    refine congrArg₂ (· ++ ·) ?_ ?_
    · rw [List.filter_singleton, Event.isOfUnnamed, Bool.not_not]
      cases cursor.node.isNamed <;> rfl
    · cases Scope.opensAt cursor.node <;> rfl

/-- **An account** of named nodes is that of all nodes without the unnamed ones. -/
theorem account_ofNamed (root : Node) :
    ofNamed.account text root =
      (ofAll.account text root).filter fun entry => !entry.2.isOfUnnamed := by
  rw [account, account, List.filter_flatMap]
  exact List.flatMap_congr fun moment _ => told_ofNamed text moment

/-- **A walk** over named nodes is that over all nodes without the unnamed ones. -/
theorem walk_ofNamed (root : Node) :
    ofNamed.walk text root = (ofAll.walk text root).filter fun event => !event.isOfUnnamed := by
  rw [← map_account, ← map_account, account_ofNamed, List.filter_map]
  rfl

/-- The scopes of a walk over named nodes are opened and closed as they are on one over all. -/
theorem filter_isOfScope_walk_ofNamed (root : Node) :
    (ofNamed.walk text root).filter Event.isOfScope =
      (ofAll.walk text root).filter Event.isOfScope := by
  rw [walk_ofNamed, List.filter_filter]
  refine List.filter_congr fun event _ => ?_
  cases hScope : event.isOfScope with
  | false => rfl
  | true => rw [Event.not_isOfUnnamed_of_isOfScope hScope]; rfl

/-- **Walks over named nodes**: without the events of unnamed nodes, a walk over all nodes is the
walk over the named ones, position by position.  Scopes are opened and closed alike, with the same
content and between the same events of named nodes; and a named node is entered and left wherever
it stands, be it below a node that is not told of. -/
theorem named_walk_of_whole (root : Node) :
    ofNamed.walk text root = (ofAll.walk text root).filter (fun event => !event.isOfUnnamed) ∧
    ofNamed.account text root =
      (ofAll.account text root).filter (fun entry => !entry.2.isOfUnnamed) ∧
    (ofNamed.walk text root).filter Event.isOfScope =
      (ofAll.walk text root).filter Event.isOfScope ∧
    (∀ before entry after, ofAll.account text root = before ++ entry :: after →
      entry.2.isOfScope = true →
      ofNamed.account text root =
        before.filter (fun entry => !entry.2.isOfUnnamed) ++
          entry :: after.filter (fun entry => !entry.2.isOfUnnamed)) ∧
    ∀ cursor ∈ root.positions, cursor.node.isNamed = true →
      (cursor, .entered cursor.node) ∈ ofNamed.account text root ∧
      (cursor, .left cursor.node) ∈ ofNamed.account text root := by
  refine ⟨walk_ofNamed text root, account_ofNamed text root,
    filter_isOfScope_walk_ofNamed text root, ?_, ?_⟩
  · intro before entry after hSplit hScope
    have hKept : (!entry.2.isOfUnnamed) = true := by
      rw [Event.not_isOfUnnamed_of_isOfScope hScope]
      rfl
    rw [account_ofNamed, hSplit, List.filter_append]
    exact congrArg _ (List.filter_cons_of_pos hKept)
  · intro cursor hMem hNamed
    exact ⟨ofNamed.entered_mem_account text hMem hNamed, ofNamed.left_mem_account text hMem hNamed⟩

end Walker

/-- An arrow function in parentheses that are one node without a name. -/
def arrowInUnnamed : Node :=
  .mk { kind := "program", start := 0, stop := 9 } [
    .mk { kind := "group", named := false, start := 0, stop := 9 } [
      .mk { kind := "(", named := false, start := 0, stop := 1 } [],
      .mk { kind := "arrow_function", start := 1, stop := 8 } [
        .mk { kind := "formal_parameters", start := 1, stop := 3, field := some "parameters" } [],
        .mk { kind := "=>", named := false, start := 4, stop := 6 } [],
        .mk { kind := "number", start := 7, stop := 8, field := some "body" } []],
      .mk { kind := ")", named := false, start := 8, stop := 9 } []]]

/-- The arrow function is entered and left, and of 18 events the 8 of unnamed nodes are left out. -/
theorem named_walk_of_arrowInUnnamed :
    let text := "(() => 1)".toList
    (∃ cursor ∈ arrowInUnnamed.positions, cursor.node.kind = "arrow_function" ∧
      (cursor.ancestors.any fun node => !node.isNamed) = true ∧
      (cursor, .entered cursor.node) ∈ Walker.ofNamed.account text arrowInUnnamed ∧
      (cursor, .left cursor.node) ∈ Walker.ofNamed.account text arrowInUnnamed) ∧
    (Walker.ofAll.walk text arrowInUnnamed).length = 18 ∧
    (Walker.ofNamed.walk text arrowInUnnamed).length = 10 := by
  intro text
  obtain ⟨hWalk, -, -, -, hNamed⟩ := Walker.named_walk_of_whole text arrowInUnnamed
  have hArrow : ∃ cursor ∈ arrowInUnnamed.positions, cursor.node.kind = "arrow_function" ∧
      (cursor.ancestors.any fun node => !node.isNamed) = true ∧ cursor.node.isNamed = true := by
    decide +kernel
  obtain ⟨cursor, hMem, hKind, hBelow, hIsNamed⟩ := hArrow
  refine ⟨⟨cursor, hMem, hKind, hBelow, hNamed cursor hMem hIsNamed⟩, by decide +kernel, ?_⟩
  rw [hWalk]
  decide +kernel

end ScriptAnalysis.Walk
