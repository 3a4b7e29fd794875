import ScriptAnalysis.Proofs.DocumentOrder
import ScriptAnalysis.Proofs.OpenScopes
import ScriptAnalysis.Proofs.PositionOrder

/-!
# The lines of scopes

A scope takes its lines from the rows at which its node starts and stops, and rows are counted in
line feeds.  So scopes lie to each other as their nodes do.

* `rowAt_append`, `rowAt_mono`: the row of a place counts the line feeds before it, and is no less
  for a later place.
* `row_lt_lineCount`: behind a character that is no line feed, the row is one of the text's lines.
* `within_up`: where children lie within their parents, each node does within all that are above.
* `scope_lines_nest`: the open scopes nest in their lines, scopes are opened in the order of their
  first lines, and a scope ends on a line of the text.
-/

namespace ScriptAnalysis

open Syntax (Crumb Cursor Label Node)
open Text (IsPlace byteLength lineCount rowAt)

/-! ### Rows -/

namespace Text

/-- **The row of a place** counts the line feeds before it. -/
theorem rowAt_append (before after : List Char) :
    rowAt (before ++ after) (byteLength before) = before.count '\n' := by
  induction before with
  | nil => cases after <;> rfl
  | cons c rest ih =>
    have hPositive := c.utf8Size_pos
    obtain ⟨n, hLength⟩ : ∃ n, byteLength (c :: rest) = n + 1 :=
      ⟨byteLength (c :: rest) - 1, by rw [byteLength_cons]; omega⟩
    have hRest : n + 1 - c.utf8Size = byteLength rest := by
      rw [← hLength, byteLength_cons]
      omega
    rw [List.cons_append, hLength, rowAt, hRest, ih, List.count_cons]
    simp only [beq_iff_eq]
    omega

/-- **A later place** is in no earlier row. -/
theorem rowAt_mono {text : List Char} {first second : Nat} (hFirst : IsPlace text first)
    (hSecond : IsPlace text second) (hLe : first ≤ second) : rowAt text first ≤ rowAt text second := by
  obtain ⟨before, between, after, rfl, rfl, rfl⟩ := hFirst.exists_between hSecond hLe
  have hRow := rowAt_append (before ++ between) after
  rw [byteLength_append, List.append_assoc, List.count_append] at hRow
  rw [rowAt_append, hRow]
  exact Nat.le_add_right _ _

/-- **Behind a character** that is no line feed, the row is one of the text's lines. -/
theorem row_lt_lineCount {before after : List Char} {c : Char} (hLast : before.getLast? = some c)
    (hInk : c ≠ '\n') : rowAt (before ++ after) (byteLength before) < lineCount (before ++ after) := by
  rw [rowAt_append]
  refine count_lt_lineCount fun _ => ?_
  rintro (rfl | hFeed)
  · cases hLast
  · exact hInk (Option.some.inj (hLast.symm.trans hFeed))

end Text

/-! ### Nodes within nodes -/

namespace Syntax.Node

/-- A node lies within another one. -/
def Within (inner outer : Node) : Prop := outer.start ≤ inner.start ∧ inner.stop ≤ outer.stop

/-- Every node of a tree has its children within it. -/
def HoldsChildren (root : Node) : Prop :=
  ∀ node ∈ root.nodes, ∀ child ∈ node.children, child.Within node

theorem Within.trans {first second third : Node} (h : first.Within second)
    (hNext : second.Within third) : first.Within third :=
  ⟨hNext.1.trans h.1, h.2.trans hNext.2⟩

theorem HoldsChildren.of_child {label : Label} {children : List Node} {child : Node}
    (h : (mk label children).HoldsChildren) (hChild : child ∈ children) : child.HoldsChildren :=
  fun node hNode => h node (mem_nodes_mk_of_child hChild hNode)

/-- **From every position up** each node lies within those above it, if it does from the root up. -/
theorem within_up : ∀ (node : Node) (path : List Crumb), node.HoldsChildren →
    (node :: path.map Crumb.parent).Pairwise Within →
    ∀ cursor ∈ node.positionsAt path, (cursor.node :: cursor.ancestors).Pairwise Within := by
  intro node
  induction node using Node.induction with
  | node label children ih =>
    intro path hHolds hUp cursor h
    rw [positionsAt] at h
    rcases List.mem_cons.mp h with rfl | hBelow
    · exact hUp
    · obtain ⟨child, hChild, right, hMem, -⟩ := mem_positionsAll hBelow
      have hHere : child.Within (mk label children) :=
        hHolds _ (mem_nodes_self _) child hChild
      refine ih child hChild _ (hHolds.of_child hChild) ?_ cursor hMem
      refine List.pairwise_cons.mpr ⟨fun outer hOuter => ?_, hUp⟩
      rcases List.mem_cons.mp hOuter with rfl | hFurther
      · exact hHere
      · exact hHere.trans (List.rel_of_pairwise_cons hUp hFurther)

end Syntax.Node

/-! ### Lines of scopes -/

namespace Walk

variable {text : List Char}

/-- A scope's lines lie within those of another one. -/
def Scope.LinesWithin (inner outer : Scope) : Prop :=
  outer.lineStart ≤ inner.lineStart ∧ inner.lineEnd ≤ outer.lineEnd

/-- The scope of a node starts on a line and ends on none before it. -/
theorem lines_ofNode {node : Node} (hFits : node.Fits text) (ancestors : List Node) :
    1 ≤ (Scope.ofNode text ancestors node).lineStart ∧
      (Scope.ofNode text ancestors node).lineStart ≤ (Scope.ofNode text ancestors node).lineEnd := by
  have hRows := Text.rowAt_mono hFits.start hFits.stop hFits.start_le
  exact ⟨Nat.le_add_left _ _, Nat.add_le_add_right hRows 1⟩

/-- **Scopes nest in their lines** as their nodes do in the text. -/
theorem linesWithin_ofNode {inner outer : Node} (hInner : inner.Fits text)
    (hOuter : outer.Fits text) (h : inner.Within outer) (above further : List Node) :
    (Scope.ofNode text above inner).LinesWithin (.ofNode text further outer) :=
  ⟨Nat.add_le_add_right (Text.rowAt_mono hOuter.start hInner.start h.1) 1,
    Nat.add_le_add_right (Text.rowAt_mono hInner.stop hOuter.stop h.2) 1⟩

/-- **A scope ends on a line of the text** if its node is not empty and ends in no line feed. -/
theorem lineEnd_le_lineCount {node : Node} (hFits : node.Fits text) (hFull : node.start < node.stop)
    (hLast : (node.text text).getLast? ≠ some '\n') (ancestors : List Node) :
    (Scope.ofNode text ancestors node).lineEnd ≤ lineCount text := by
  obtain ⟨before, after, hText, hStart, hStop⟩ := hFits.exists_text
  cases hCovered : (node.text text).getLast? with
  | none =>
    rw [List.getLast?_eq_none_iff.mp hCovered, Text.byteLength_nil] at hStop
    omega
  | some c =>
    have hInk : c ≠ '\n' := fun hIs => hLast (by rw [hCovered, hIs])
    have hPart : (before ++ node.text text).getLast? = some c := by
      rw [List.getLast?_append, hCovered]
      rfl
    have hRow := @Text.row_lt_lineCount _ after c hPart hInk
    rw [List.append_assoc, ← hText, Text.byteLength_append, ← hStop] at hRow
    exact hRow

namespace Walker

variable (walker : Walker)

/-- A scope that a walk opens is that of the function it opens it at. -/
theorem eq_ofNode_of_opened {root : Node} {cursor : Cursor} {scope : Scope}
    (h : (cursor, .scopeOpened scope) ∈ walker.account text root) :
    scope = .ofNode text cursor.ancestors cursor.node := by
  obtain ⟨moment, -, hTold⟩ := List.mem_flatMap.mp h
  cases moment with
  | entering entered =>
    rw [told_entering] at hTold
    cases hOpens : Scope.opensAt entered.node <;> cases hTells : walker.tellsOf entered.node <;>
      simp [hOpens, hTells] at hTold
    · obtain ⟨rfl, rfl⟩ := hTold
      rfl
    · obtain ⟨rfl, rfl⟩ := hTold
      rfl
  | leaving left =>
    rw [told_leaving] at hTold
    cases hOpens : Scope.opensAt left.node <;> cases hTells : walker.tellsOf left.node <;>
      simp [hOpens, hTells] at hTold

/-- **At every moment of a walk** the open scopes nest in their lines. -/
theorem lines_of_open {root : Node} (hFits : ∀ node ∈ root.nodes, node.Fits text)
    (hHolds : root.HoldsChildren) (n : Nat) :
    (∀ scope ∈ openScopes ((walker.walk text root).take n),
      1 ≤ scope.lineStart ∧ scope.lineStart ≤ scope.lineEnd) ∧
    (openScopes ((walker.walk text root).take n)).Pairwise Scope.LinesWithin := by
  obtain ⟨cursor, hMem, up, hUp, hOpened⟩ := walker.exists_scopesUp_eq text root n
  have hNodes : ∀ node ∈ up, node.Fits text := by
    intro node hNode
    rcases List.mem_cons.mp (hUp.subset hNode) with rfl | hAbove
    · exact hFits _ (List.mem_map_of_mem hMem)
    · exact hFits node (Cursor.mem_nodes_of_mem_ancestors hMem hAbove).1
  have hWithin : up.Pairwise Node.Within :=
    (Node.within_up root [] hHolds (List.pairwise_singleton _ _) cursor hMem).sublist hUp.sublist
  rw [hOpened]
  refine ⟨fun scope hScope => ?_, ?_⟩
  · obtain ⟨node, hNode, above, rfl⟩ := exists_node_of_mem_scopesUp hScope
    exact lines_ofNode (hNodes node hNode) above
  · refine pairwise_scopesUp (fun inner outer above further h => ?_)
      (List.Pairwise.and_mem.mp hWithin)
    exact linesWithin_ofNode (hNodes inner h.1) (hNodes outer h.2.1) h.2.2 above further

/-- **Scopes are opened** in the order of the lines they start on. -/
theorem lineStart_pairwise {root : Node} (hOrder : root.InOrder text) :
    (scopes (walker.walk text root)).Pairwise fun earlier later =>
      earlier.lineStart ≤ later.lineStart := by
  have hPairs := (List.Pairwise.and_mem.mp hOrder.positions_pairwise).filter
    fun cursor => Scope.opensAt cursor.node
  rw [scopes_walk, List.pairwise_map]
  refine hPairs.imp fun {first second} h => ?_
  obtain ⟨hFirst, hSecond, hPrecedes⟩ := h
  have hFirstFits := hOrder.fits _ (List.mem_map_of_mem hFirst)
  have hSecondFits := hOrder.fits _ (List.mem_map_of_mem hSecond)
  have hStart : first.node.start ≤ second.node.start := by
    rcases hPrecedes with hAbove | hBefore
    · have hIn := Node.node_mem_nodes_of_mem_below (Cursor.mem_below_of_above hAbove hSecond).2
      exact ((hOrder.of_mem (List.mem_map_of_mem hFirst)).range_of_mem hIn).1
    · exact hFirstFits.start_le.trans hBefore
  exact Nat.add_le_add_right (Text.rowAt_mono hFirstFits.start hSecondFits.start hStart) 1

/-- **The lines of scopes nest and stay within the text.**  Let the nodes of a tree lie in its text,
children within their parents.  At every moment of a walk each open scope starts on a line and ends on
none before it, and has its lines within those of all that are around it.  If siblings stand side by
side, scopes are opened in the order of the lines they start on.  And a scope whose node is not empty
and ends in no line feed ends on a line of the text. -/
theorem scope_lines_nest (tree : SyntaxTree)
    (hFits : ∀ node ∈ tree.root.nodes, node.Fits tree.text)
    (hHolds : ∀ node ∈ tree.root.nodes, ∀ child ∈ node.children,
      node.start ≤ child.start ∧ child.stop ≤ node.stop) :
    (∀ n,
      let opened := openScopes ((walker.walk tree.text tree.root).take n)
      (∀ scope ∈ opened, 1 ≤ scope.lineStart ∧ scope.lineStart ≤ scope.lineEnd) ∧
      opened.Pairwise fun inner outer =>
        outer.lineStart ≤ inner.lineStart ∧ inner.lineEnd ≤ outer.lineEnd) ∧
    ((∀ node ∈ tree.root.nodes,
        node.children.Pairwise fun left right => left.stop ≤ right.start) →
      (scopes (walker.walk tree.text tree.root)).Pairwise fun earlier later =>
        earlier.lineStart ≤ later.lineStart) ∧
    (walker.account tree.text tree.root).map Prod.snd = walker.walk tree.text tree.root ∧
    ∀ cursor scope, (cursor, .scopeOpened scope) ∈ walker.account tree.text tree.root →
      cursor.node.start < cursor.node.stop →
      (cursor.node.text tree.text).getLast? ≠ some '\n' → scope.lineEnd ≤ tree.lineCount := by
  refine ⟨walker.lines_of_open hFits hHolds, fun hApart => ?_,
    walker.map_account tree.text tree.root, fun cursor scope hOpened hFull hLast => ?_⟩
  · exact walker.lineStart_pairwise
      ⟨hFits, fun node hNode => ⟨hHolds node hNode, hApart node hNode⟩⟩
  · rw [walker.eq_ofNode_of_opened hOpened]
    have hMem := walker.mem_positions_of_mem_account tree.text hOpened
    exact lineEnd_le_lineCount (hFits _ (List.mem_map_of_mem hMem)) hFull hLast _

end Walker

/-- A function over four lines with an arrow over two of them, and a line feed at the end. -/
def arrowInBody : SyntaxTree where
  code := "function f() \x7b\n  return () => \x7b\n  \x7d\n\x7d\n"
  root := .mk { kind := "program", start := 0, stop := 38 } [
    .mk { kind := "function_declaration", start := 0, stop := 37 } [
      .mk { kind := "function", named := false, start := 0, stop := 8 } [],
      .mk { kind := "identifier", start := 9, stop := 10, field := some "name" } [],
      .mk { kind := "formal_parameters", start := 10, stop := 12, field := some "parameters" } [
        .mk { kind := "(", named := false, start := 10, stop := 11 } [],
        .mk { kind := ")", named := false, start := 11, stop := 12 } []],
      .mk { kind := "statement_block", start := 13, stop := 37, field := some "body" } [
        .mk { kind := "\x7b", named := false, start := 13, stop := 14 } [],
        .mk { kind := "return_statement", start := 17, stop := 35 } [
          .mk { kind := "return", named := false, start := 17, stop := 23 } [],
          .mk { kind := "arrow_function", start := 24, stop := 35 } [
            .mk { kind := "formal_parameters", start := 24, stop := 26,
                  field := some "parameters" } [
              .mk { kind := "(", named := false, start := 24, stop := 25 } [],
              .mk { kind := ")", named := false, start := 25, stop := 26 } []],
            .mk { kind := "=>", named := false, start := 27, stop := 29 } [],
            .mk { kind := "statement_block", start := 30, stop := 35, field := some "body" } [
              .mk { kind := "\x7b", named := false, start := 30, stop := 31 } [],
              .mk { kind := "\x7d", named := false, start := 34, stop := 35 } []]]],
        .mk { kind := "\x7d", named := false, start := 36, stop := 37 } []]]]
  grammar := .javaScript
  errors := []

/-- The arrow's lines are the two in the middle; the line feed at the end begins no fifth line. -/
theorem scope_lines_nest_of_arrowInBody :
    let walk := Walker.ofNamed.walk arrowInBody.text arrowInBody.root
    (scopes walk).map (fun scope => (scope.lineStart, scope.lineEnd)) = [(1, 4), (2, 3)] ∧
    arrowInBody.lineCount = 4 ∧
    (∀ n, (openScopes (walk.take n)).Pairwise fun inner outer =>
      outer.lineStart ≤ inner.lineStart ∧ inner.lineEnd ≤ outer.lineEnd) ∧
    (scopes walk).Pairwise (fun earlier later => earlier.lineStart ≤ later.lineStart) ∧
    ∀ cursor scope,
      (cursor, .scopeOpened scope) ∈
        Walker.ofNamed.account arrowInBody.text arrowInBody.root →
      cursor.node.kind ≠ "program" → scope.lineEnd ≤ 4 := by
  intro walk
  have hFits : ∀ node ∈ arrowInBody.root.nodes, node.Fits arrowInBody.text := by
    decide +kernel
  have hHolds : ∀ node ∈ arrowInBody.root.nodes, ∀ child ∈ node.children,
      node.start ≤ child.start ∧ child.stop ≤ node.stop := by
    decide +kernel
  have hApart : ∀ node ∈ arrowInBody.root.nodes,
      node.children.Pairwise fun left right => left.stop ≤ right.start := by
    decide +kernel
  have hInk : ∀ cursor ∈ arrowInBody.root.positions, cursor.node.kind ≠ "program" →
      cursor.node.start < cursor.node.stop ∧
        (cursor.node.text arrowInBody.text).getLast? ≠ some '\n' := by
    decide +kernel
  obtain ⟨hOpen, hOrder, -, hEnd⟩ := Walker.ofNamed.scope_lines_nest arrowInBody hFits hHolds
  refine ⟨by decide +kernel, by decide +kernel, fun n => (hOpen n).2, hOrder hApart, ?_⟩
  intro cursor scope hOpened hKind
  have hMem := Walker.ofNamed.mem_positions_of_mem_account arrowInBody.text hOpened
  obtain ⟨hFull, hLast⟩ := hInk cursor hMem hKind
  exact hEnd cursor scope hOpened hFull hLast

end Walk

end ScriptAnalysis
