import Mathlib.Data.List.Basic
import ScriptAnalysis.Proofs.Tour
import ScriptAnalysis.Walk.Event

/-!
# Walks as brackets

A walk enters and leaves nodes and opens and closes scopes.  `Walker.eventsAt` is the same by
recursion on the tree.  `Walker.account` is a walk with the position that each event is about, and
`Brackets` says how such events may follow each other: what was opened last is closed first, at the
same position, and a node that opens a scope is entered right inside that scope.

* `walk_eq_eventsAt`: a walk is the recursion on the tree.
* `entered_account`, `left_account`: the nodes that are told of are each entered and left once.
* `brackets_account`: an account is well bracketed.
* `Brackets.closings_take_le`: a beginning of bracketed events closes no scope that is not open.
* `ofEvents_walk`: a walk ends at the depth it began at, and has been as deep as functions nest.
* `walk_bracketed`: all this of one walk.
-/

namespace ScriptAnalysis.Walk

open Syntax (Crumb Cursor Moment Node Visitor)

/-! ### By recursion on the tree -/

namespace Walker

mutual

/-- The events of a node and of all below it. -/
def eventsAt (walker : Walker) (text : List Char) (ancestors : List Node) : Node → List Event
  | .mk label children =>
    (if Scope.opensAt (.mk label children) then
        [.scopeOpened (.ofNode text ancestors (.mk label children))] else []) ++
      (if walker.tellsOf (.mk label children) then [.entered (.mk label children)] else []) ++
      eventsAll walker text (.mk label children :: ancestors) children ++
      (if walker.tellsOf (.mk label children) then [.left (.mk label children)] else []) ++
      if Scope.opensAt (.mk label children) then [.scopeClosed] else []

/-- The events of some siblings and of all below them. -/
def eventsAll (walker : Walker) (text : List Char) (ancestors : List Node) :
    List Node → List Event
  | [] => []
  | node :: right => eventsAt walker text ancestors node ++ eventsAll walker text ancestors right

end

variable (walker : Walker) (text : List Char)

mutual

theorem visit_eq_eventsAt (ancestors : List Node) : ∀ node : Node,
    (walker.visitor text).visit ancestors node = walker.eventsAt text ancestors node
  | .mk label children => by
    have hBelow := visitAll_eq_eventsAll (.mk label children :: ancestors) children
    rw [Visitor.visit, hBelow, eventsAt]
    simp only [visitor, if_true, List.append_assoc]

theorem visitAll_eq_eventsAll (ancestors : List Node) : ∀ nodes : List Node,
    (walker.visitor text).visitAll ancestors nodes = walker.eventsAll text ancestors nodes
  | [] => by rw [Visitor.visitAll, eventsAll]
  | node :: right => by
    rw [Visitor.visitAll, eventsAll, visit_eq_eventsAt ancestors node,
      visitAll_eq_eventsAll ancestors right]

end

/-- **A walk is the recursion on the tree.** -/
theorem walk_eq_eventsAt (root : Node) : walker.walk text root = walker.eventsAt text [] root :=
  (Visitor.run_atRoot _ root).trans (walker.visit_eq_eventsAt text [] root)

/-! ### Events with their positions -/

/-- What is told at a moment of a tour, with the position it is about. -/
def told : Moment → List (Cursor × Event)
  | .entering cursor =>
    ((walker.visitor text).enter cursor.ancestors cursor.node).map fun event => (cursor, event)
  | .leaving cursor =>
    ((walker.visitor text).leave cursor.ancestors cursor.node).map fun event => (cursor, event)

/-- The events of a walk, each with the position it is about. -/
def account (root : Node) : List (Cursor × Event) := root.tour.flatMap (walker.told text)

theorem map_told (moment : Moment) :
    (walker.told text moment).map Prod.snd = (walker.visitor text).reportAt moment := by
  cases moment with
  | entering cursor =>
    rw [told, Visitor.reportAt, List.map_map]
    exact List.map_id _
  | leaving cursor =>
    rw [told, Visitor.reportAt, List.map_map]
    exact List.map_id _

/-- **An account is the walk.** -/
theorem map_account (root : Node) :
    (walker.account text root).map Prod.snd = walker.walk text root := by
  have hRun : walker.walk text root = (walker.visitor text).visit [] root :=
    Visitor.run_atRoot _ root
  have hTour : (walker.visitor text).visit [] root =
      root.tour.flatMap (walker.visitor text).reportAt :=
    Visitor.visit_eq_tour (fun _ _ => rfl) [] root
  rw [hRun, hTour, account, List.map_flatMap]
  exact List.flatMap_congr fun moment _ => walker.map_told text moment

theorem told_entering (cursor : Cursor) :
    walker.told text (.entering cursor) =
      (if Scope.opensAt cursor.node then
        [(cursor, .scopeOpened (.ofNode text cursor.ancestors cursor.node))] else []) ++
        if walker.tellsOf cursor.node then [(cursor, .entered cursor.node)] else [] := by
  simp only [told, visitor]
  cases Scope.opensAt cursor.node <;> cases walker.tellsOf cursor.node <;> rfl

theorem told_leaving (cursor : Cursor) :
    walker.told text (.leaving cursor) =
      (if walker.tellsOf cursor.node then [(cursor, .left cursor.node)] else []) ++
        if Scope.opensAt cursor.node then [(cursor, .scopeClosed)] else [] := by
  simp only [told, visitor]
  cases Scope.opensAt cursor.node <;> cases walker.tellsOf cursor.node <;> rfl

/-- A node that is told of is entered. -/
theorem entered_mem_account {root : Node} {cursor : Cursor} (hMem : cursor ∈ root.positions)
    (hTells : walker.tellsOf cursor.node = true) :
    (cursor, .entered cursor.node) ∈ walker.account text root := by
  rw [Node.positions, ← Node.entered_tourAt] at hMem
  obtain ⟨moment, hMoment, hEntered⟩ := List.mem_filterMap.mp hMem
  cases moment with
  | entering entered =>
    obtain rfl := Option.some.inj hEntered
    refine List.mem_flatMap.mpr ⟨_, hMoment, ?_⟩
    rw [told_entering, hTells]
    exact List.mem_append_right _ List.mem_cons_self
  | leaving left => cases hEntered

/-- A node that is told of is left. -/
theorem left_mem_account {root : Node} {cursor : Cursor} (hMem : cursor ∈ root.positions)
    (hTells : walker.tellsOf cursor.node = true) :
    (cursor, .left cursor.node) ∈ walker.account text root := by
  have hLeft : cursor ∈ root.tour.filterMap Moment.left? :=
    (Node.left_tourAt [] root).mem_iff.mpr hMem
  obtain ⟨moment, hMoment, hSome⟩ := List.mem_filterMap.mp hLeft
  cases moment with
  | entering entered => cases hSome
  | leaving left =>
    obtain rfl := Option.some.inj hSome
    refine List.mem_flatMap.mpr ⟨_, hMoment, ?_⟩
    rw [told_leaving, hTells]
    exact List.mem_append_left _ List.mem_cons_self

end Walker

/-! ### Each position once -/

/-- The position that is entered. -/
def enteredAt? : Cursor × Event → Option Cursor
  | (cursor, .entered _) => some cursor
  | _ => none

/-- The position that is left. -/
def leftAt? : Cursor × Event → Option Cursor
  | (cursor, .left _) => some cursor
  | _ => none

/-- The position at which a scope is opened. -/
def openedAt? : Cursor × Event → Option Cursor
  | (cursor, .scopeOpened _) => some cursor
  | _ => none

namespace Walker

variable (walker : Walker) (text : List Char)

/-- What is selected from an account is what is selected from the tour, as far as it is told. -/
theorem filterMap_account {select : Cursor × Event → Option Cursor}
    {moments : Moment → Option Cursor} {keep : Node → Bool}
    (h : ∀ moment, (walker.told text moment).filterMap select =
      (moments moment).toList.filter fun cursor => keep cursor.node) (root : Node) :
    (walker.account text root).filterMap select =
      (root.tour.filterMap moments).filter fun cursor => keep cursor.node := by
  rw [account, List.filterMap_flatMap, List.filterMap_eq_flatMap_toList, List.filter_flatMap]
  exact List.flatMap_congr fun moment _ => h moment

/-- What is selected only where nodes are entered is selected in the order of the text. -/
theorem filterMap_account_of_entering {select : Cursor × Event → Option Cursor}
    {keep : Node → Bool}
    (hEntering : ∀ cursor, (walker.told text (.entering cursor)).filterMap select =
      [cursor].filter fun cursor => keep cursor.node)
    (hLeaving : ∀ cursor, (walker.told text (.leaving cursor)).filterMap select = [])
    (root : Node) :
    (walker.account text root).filterMap select =
      root.positions.filter fun cursor => keep cursor.node := by
  rw [Node.positions, ← Node.entered_tourAt, ← Node.tour]
  refine walker.filterMap_account text (fun moment => ?_) root
  cases moment with
  | entering cursor => exact hEntering cursor
  | leaving cursor => exact hLeaving cursor

/-- The nodes that are told of are entered in the order of the text. -/
theorem entered_account (root : Node) :
    (walker.account text root).filterMap enteredAt? =
      root.positions.filter fun cursor => walker.tellsOf cursor.node := by
  refine walker.filterMap_account_of_entering text (fun cursor => ?_) (fun cursor => ?_) root
  · rw [told_entering, List.filter_cons]
    cases Scope.opensAt cursor.node <;> cases walker.tellsOf cursor.node <;> rfl
  · rw [told_leaving]
    cases Scope.opensAt cursor.node <;> cases walker.tellsOf cursor.node <;> rfl

/-- The nodes that are told of are left in another order. -/
theorem left_account (root : Node) :
    ((walker.account text root).filterMap leftAt?).Perm
      (root.positions.filter fun cursor => walker.tellsOf cursor.node) := by
  have hLeft : (walker.account text root).filterMap leftAt? =
      (root.tour.filterMap Moment.left?).filter fun cursor => walker.tellsOf cursor.node := by
    refine walker.filterMap_account text (fun moment => ?_) root
    cases moment with
    | entering cursor =>
      rw [told_entering]
      cases Scope.opensAt cursor.node <;> cases walker.tellsOf cursor.node <;> rfl
    | leaving cursor =>
      simp only [told_leaving, Moment.left?, Option.toList_some, List.filter_cons]
      cases Scope.opensAt cursor.node <;> cases walker.tellsOf cursor.node <;> rfl
  rw [hLeft]
  exact (Node.left_tourAt [] root).filter _

/-- A scope is opened at each function. -/
theorem opened_account (root : Node) :
    (walker.account text root).filterMap openedAt? =
      root.positions.filter fun cursor => Scope.opensAt cursor.node := by
  refine walker.filterMap_account_of_entering text (fun cursor => ?_) (fun cursor => ?_) root
  · rw [told_entering, List.filter_cons]
    cases Scope.opensAt cursor.node <;> cases walker.tellsOf cursor.node <;> rfl
  · rw [told_leaving]
    cases Scope.opensAt cursor.node <;> cases walker.tellsOf cursor.node <;> rfl

end Walker

/-! ### Brackets -/

/-- Something that is open. -/
inductive Opened where
  | scope (cursor : Cursor)
  | node (cursor : Cursor)

namespace Opened

def isScope : Opened → Bool
  | .scope _ => true
  | .node _ => false

end Opened

/-- Events that close all that is open, innermost first, and all that they open themselves. -/
inductive Brackets : List Opened → List (Cursor × Event) → Prop
  | done : Brackets [] []
  | scopeOpened {opened : List Opened} {events : List (Cursor × Event)} {cursor : Cursor}
      (scope : Scope) (opens : Scope.opensAt cursor.node = true)
      (inner : Brackets (.scope cursor :: opened) events) :
      Brackets opened ((cursor, .scopeOpened scope) :: events)
  | entered {opened : List Opened} {events : List (Cursor × Event)} {cursor : Cursor}
      (within : Scope.opensAt cursor.node = true → opened.head? = some (.scope cursor))
      (inner : Brackets (.node cursor :: opened) events) :
      Brackets opened ((cursor, .entered cursor.node) :: events)
  | left {opened : List Opened} {events : List (Cursor × Event)} {cursor : Cursor}
      (outer : Brackets opened events) :
      Brackets (.node cursor :: opened) ((cursor, .left cursor.node) :: events)
  | scopeClosed {opened : List Opened} {events : List (Cursor × Event)} {cursor : Cursor}
      (outer : Brackets opened events) :
      Brackets (.scope cursor :: opened) ((cursor, .scopeClosed) :: events)

namespace Walker

variable (walker : Walker) (text : List Char)

/-- What is open inside a node and not outside it. -/
def inside (cursor : Cursor) : List Opened :=
  (if walker.tellsOf cursor.node then [.node cursor] else []) ++
    if Scope.opensAt cursor.node then [.scope cursor] else []

theorem brackets_entering (cursor : Cursor) {opened : List Opened} {rest : List (Cursor × Event)}
    (h : Brackets (walker.inside cursor ++ opened) rest) :
    Brackets opened (walker.told text (.entering cursor) ++ rest) := by
  rw [inside] at h
  rw [told_entering]
  cases hOpens : Scope.opensAt cursor.node <;> cases hTells : walker.tellsOf cursor.node <;>
    simp only [hOpens, hTells] at h ⊢
  · exact h
  · exact .entered (fun hScope => by simp [hOpens] at hScope) h
  · exact .scopeOpened _ hOpens h
  · exact .scopeOpened _ hOpens (.entered (fun _ => rfl) h)

theorem brackets_leaving (cursor : Cursor) {opened : List Opened} {rest : List (Cursor × Event)}
    (h : Brackets opened rest) :
    Brackets (walker.inside cursor ++ opened) (walker.told text (.leaving cursor) ++ rest) := by
  rw [inside, told_leaving]
  cases Scope.opensAt cursor.node <;> cases walker.tellsOf cursor.node
  · exact h
  · exact .left h
  · exact .scopeClosed h
  · exact .left (.scopeClosed h)

/-- **An account is well bracketed.** -/
theorem brackets_account (root : Node) : Brackets [] (walker.account text root) := by
  have hKept : Node.KeptOnTours fun above moments =>
      Brackets (above.flatMap walker.inside) (moments.flatMap (walker.told text)) :=
    { entering := fun cursor _ h => walker.brackets_entering text cursor h
      leaving := fun cursor _ h => walker.brackets_leaving text cursor h }
  exact Node.tour_induction hKept .done root

end Walker

/-! ### Scopes opened and closed -/

/-- How many scopes are closed. -/
def closings (events : List Event) : Nat :=
  events.countP fun
    | .scopeClosed => true
    | _ => false

/-- **A beginning** of bracketed events closes no more scopes than were open before and have been
opened since. -/
theorem Brackets.closings_take_le {opened : List Opened} {events : List (Cursor × Event)}
    (h : Brackets opened events) : ∀ n,
    closings ((events.map Prod.snd).take n) ≤
      (scopes ((events.map Prod.snd).take n)).length + opened.countP Opened.isScope := by
  induction h with
  | done =>
    intro n
    rw [List.map_nil, List.take_nil]
    exact Nat.zero_le _
  | @scopeOpened opened events cursor scope opens inner ih =>
    intro n
    cases n with
    | zero => exact Nat.zero_le _
    | succ n =>
      have hOpened : (Opened.scope cursor :: opened).countP Opened.isScope =
          opened.countP Opened.isScope + 1 := List.countP_cons_of_pos rfl
      have hRest := ih n
      rw [hOpened] at hRest
      show closings ((events.map Prod.snd).take n) ≤
        (scopes ((events.map Prod.snd).take n)).length + 1 + opened.countP Opened.isScope
      omega
  | entered within inner ih =>
    intro n
    cases n with
    | zero => exact Nat.zero_le _
    | succ n => exact ih n
  | left outer ih =>
    intro n
    cases n with
    | zero => exact Nat.zero_le _
    | succ n => exact ih n
  | @scopeClosed opened events cursor outer ih =>
    intro n
    cases n with
    | zero => exact Nat.zero_le _
    | succ n =>
      have hOpened : (Opened.scope cursor :: opened).countP Opened.isScope =
          opened.countP Opened.isScope + 1 := List.countP_cons_of_pos rfl
      have hClosed : closings (.scopeClosed :: (events.map Prod.snd).take n) =
          closings ((events.map Prod.snd).take n) + 1 := List.countP_cons_of_pos rfl
      have hRest := ih n
      rw [hOpened, List.map_cons, List.take_succ_cons, hClosed]
      show closings ((events.map Prod.snd).take n) + 1 ≤
        (scopes ((events.map Prod.snd).take n)).length + (opened.countP Opened.isScope + 1)
      omega

namespace Walker

variable (walker : Walker) (text : List Char)

/-! ### How deep -/

/-- A walk opens a scope for each function. -/
theorem length_scopes_walk (root : Node) :
    (scopes (walker.walk text root)).length = root.nodes.countP Scope.opensAt := by
  have hOpened : (scopes (walker.walk text root)).length =
      ((walker.account text root).filterMap openedAt?).length := by
    rw [← map_account, scopes, List.filterMap_map, List.length_filterMap_eq_countP,
      List.length_filterMap_eq_countP]
    refine List.countP_congr fun ⟨cursor, event⟩ _ => ?_
    cases event <;> rfl
  rw [hOpened, opened_account, ← List.countP_eq_length_filter, Node.nodes, List.countP_map]
  rfl

theorem foldl_enter (ancestors : List Node) (node : Node) (count : Depth) :
    ((walker.visitor text).enter ancestors node).foldl Depth.after count =
      if Scope.opensAt node then ⟨count.depth + 1, max count.maxDepth (count.depth + 1)⟩
      else count := by
  simp only [visitor]
  cases Scope.opensAt node <;> cases walker.tellsOf node <;> rfl

theorem foldl_leave (ancestors : List Node) (node : Node) (count : Depth) :
    ((walker.visitor text).leave ancestors node).foldl Depth.after count =
      if Scope.opensAt node then ⟨count.depth - 1, count.maxDepth⟩ else count := by
  simp only [visitor]
  cases Scope.opensAt node <;> cases walker.tellsOf node <;> rfl

mutual

/-- The events of a node leave the depth as it was; meanwhile it has been as deep as functions
nest in the node. -/
theorem foldl_visit (ancestors : List Node) : ∀ (node : Node) (count : Depth),
    count.depth ≤ count.maxDepth →
    ((walker.visitor text).visit ancestors node).foldl Depth.after count =
      ⟨count.depth, max count.maxDepth (count.depth + node.nesting Scope.opensAt)⟩
  | .mk label children => by
    intro count h
    have hBelow := foldl_visitAll (.mk label children :: ancestors) children
    have hDescends : (walker.visitor text).descends ancestors (.mk label children) = true := rfl
    rw [Visitor.visit, if_pos hDescends, List.foldl_append, List.foldl_append, foldl_enter,
      Node.nesting]
    cases hOpens : Scope.opensAt (.mk label children) with
    | false =>
      rw [if_neg Bool.false_ne_true, if_neg Bool.false_ne_true, hBelow count h, foldl_leave, hOpens,
        if_neg Bool.false_ne_true, Nat.zero_add]
    | true =>
      have hInner := hBelow ⟨count.depth + 1, max count.maxDepth (count.depth + 1)⟩
        (Nat.le_max_right _ _)
      rw [if_pos rfl, if_pos rfl, hInner, foldl_leave, hOpens, if_pos rfl]
      refine congrArg₂ Depth.mk (Nat.add_sub_cancel _ _) ?_
      show max (max count.maxDepth (count.depth + 1)) (count.depth + 1 + _) = _
      omega

theorem foldl_visitAll (ancestors : List Node) : ∀ (nodes : List Node) (count : Depth),
    count.depth ≤ count.maxDepth →
    ((walker.visitor text).visitAll ancestors nodes).foldl Depth.after count =
      ⟨count.depth, max count.maxDepth (count.depth + Node.nestingAll Scope.opensAt nodes)⟩
  | [] => by
    intro count h
    rw [Visitor.visitAll, Node.nestingAll, Nat.add_zero, Nat.max_eq_left h]
    rfl
  | node :: right => by
    intro count h
    have hNode := foldl_visit ancestors node count h
    have hRight := foldl_visitAll ancestors right
      ⟨count.depth, max count.maxDepth (count.depth + node.nesting Scope.opensAt)⟩
      (Nat.le_trans h (Nat.le_max_left _ _))
    rw [Visitor.visitAll, List.foldl_append, hNode, hRight, Node.nestingAll]
    refine congrArg (Depth.mk count.depth) ?_
    show max (max count.maxDepth _) (count.depth + _) = _
    omega

end

/-- **A walk** ends with no scope open, and at most as many were open as functions nest. -/
theorem ofEvents_walk (root : Node) :
    Depth.ofEvents (walker.walk text root) = ⟨0, root.nesting Scope.opensAt⟩ := by
  have hRun : walker.walk text root = (walker.visitor text).visit [] root :=
    Visitor.run_atRoot _ root
  have hFold := walker.foldl_visit text [] root {} (Nat.le_refl _)
  rw [hRun, Depth.ofEvents, hFold]
  refine congrArg (Depth.mk 0) ?_
  show max 0 (0 + _) = _
  omega

/-- **A walk is the recursion on the tree**, and as brackets: each position is entered once and left
once if its node is named or all nodes are told of, and not at all if not; what is opened last is closed first, scopes
around their nodes; a scope is opened for each function and no more are ever closed; and in the end
none is open, after as many at once as there are functions on the way to some position. -/
theorem walk_bracketed (root : Node) :
    walker.walk text root = walker.eventsAt text [] root ∧
    (walker.account text root).map Prod.snd = walker.walk text root ∧
    ((walker.account text root).filterMap enteredAt?).Nodup ∧
    ((walker.account text root).filterMap leftAt?).Nodup ∧
    (∀ cursor ∈ root.positions,
      (cursor ∈ (walker.account text root).filterMap enteredAt? ↔
        (walker.tellsAll || cursor.node.isNamed) = true) ∧
      (cursor ∈ (walker.account text root).filterMap leftAt? ↔
        (walker.tellsAll || cursor.node.isNamed) = true)) ∧
    Brackets [] (walker.account text root) ∧
    (∀ n, closings ((walker.walk text root).take n) ≤
      (scopes ((walker.walk text root).take n)).length) ∧
    (Depth.ofEvents (walker.walk text root)).depth = 0 ∧
    (scopes (walker.walk text root)).length = root.nodes.countP Scope.opensAt ∧
    (∀ cursor ∈ root.positions,
      Node.countUp Scope.opensAt cursor ≤ (Depth.ofEvents (walker.walk text root)).maxDepth) ∧
    ∃ cursor ∈ root.positions,
      Node.countUp Scope.opensAt cursor = (Depth.ofEvents (walker.walk text root)).maxDepth := by
  have hNodup : (root.positions.filter fun cursor => walker.tellsOf cursor.node).Nodup :=
    (Node.nodup_positions root).filter _
  have hLeft := walker.left_account text root
  have hDepth := walker.ofEvents_walk text root
  refine ⟨walker.walk_eq_eventsAt text root, walker.map_account text root, ?_,
    hLeft.nodup_iff.mpr hNodup, fun cursor hMem => ⟨?_, ?_⟩, walker.brackets_account text root,
    fun n => ?_, ?_, walker.length_scopes_walk text root, fun cursor hMem => ?_, ?_⟩
  · rw [entered_account]
    exact hNodup
  · rw [entered_account, List.mem_filter]
    exact and_iff_right hMem
  · rw [hLeft.mem_iff, List.mem_filter]
    exact and_iff_right hMem
  · have hClosings := (walker.brackets_account text root).closings_take_le n
    rw [map_account] at hClosings
    exact hClosings
  · rw [hDepth]
  · have hLe := Node.countUp_le_nesting Scope.opensAt [] root cursor hMem
    rw [List.map_nil, List.countP_nil, Nat.zero_add] at hLe
    rw [hDepth]
    exact hLe
  · obtain ⟨cursor, hMem, hEq⟩ := Node.exists_countUp_eq_nesting Scope.opensAt [] root
    rw [List.map_nil, List.countP_nil, Nat.zero_add] at hEq
    refine ⟨cursor, hMem, ?_⟩
    rw [hDepth]
    exact hEq

end Walker

/-- A function with another one in its body. -/
def arrowInside : Node :=
  .mk { kind := "program", start := 0, stop := 24 } [
    .mk { kind := "function_declaration", start := 0, stop := 24 } [
      .mk { kind := "function", named := false, start := 0, stop := 8 } [],
      .mk { kind := "identifier", start := 9, stop := 10, field := some "name" } [],
      .mk { kind := "formal_parameters", start := 10, stop := 12, field := some "parameters" } [],
      .mk { kind := "statement_block", start := 13, stop := 24, field := some "body" } [
        .mk { kind := "arrow_function", start := 15, stop := 22 } [
          .mk { kind := "formal_parameters", start := 15, stop := 17,
                field := some "parameters" } [],
          .mk { kind := "number", start := 21, stop := 22, field := some "body" } []]]]]

/-- The keyword has the kind of a function too, but it opens no scope, and it is entered only where all
nodes are told of; the arrow is entered and left on either walk. -/
theorem walk_bracketed_of_arrowInside :
    let text := "function f() { () => 1 }".toList
    let all := Walker.ofAll.account text arrowInside
    let named := Walker.ofNamed.account text arrowInside
    (scopes (Walker.ofAll.walk text arrowInside)).length = 2 ∧
    (Depth.ofEvents (Walker.ofAll.walk text arrowInside)).maxDepth = 2 ∧
    (∃ arrow ∈ arrowInside.positions, arrow.node.kind = "arrow_function" ∧
      arrow ∈ all.filterMap enteredAt? ∧ arrow ∈ named.filterMap enteredAt? ∧
      arrow ∈ named.filterMap leftAt?) ∧
    ∃ keyword ∈ arrowInside.positions, keyword.node.kind = "function" ∧
      keyword ∈ all.filterMap enteredAt? ∧ keyword ∈ all.filterMap leftAt? ∧
      keyword ∉ named.filterMap enteredAt? ∧ keyword ∉ named.filterMap leftAt? := by
  intro text all named
  obtain ⟨-, -, -, -, hAll, -, -, -, hScopes, hMax, hSome⟩ :=
    Walker.ofAll.walk_bracketed text arrowInside
  obtain ⟨-, -, -, -, hNamed, -⟩ := Walker.ofNamed.walk_bracketed text arrowInside
  have hCount : arrowInside.nodes.countP Scope.opensAt = 2 := by decide +kernel
  have hDeep : ∃ cursor ∈ arrowInside.positions, Node.countUp Scope.opensAt cursor = 2 := by
    decide +kernel
  have hNone : ∀ cursor ∈ arrowInside.positions, Node.countUp Scope.opensAt cursor ≤ 2 := by
    decide +kernel
  have hArrow : ∃ cursor ∈ arrowInside.positions, cursor.node.kind = "arrow_function" ∧
      cursor.node.isNamed = true := by decide +kernel
  have hKeyword : ∃ cursor ∈ arrowInside.positions, cursor.node.kind = "function" ∧
      cursor.node.isNamed = false := by decide +kernel
  refine ⟨hScopes.trans hCount, ?_, ?_, ?_⟩
  · obtain ⟨deep, hMemDeep, hTwo⟩ := hDeep
    obtain ⟨deepest, hMemDeepest, hEq⟩ := hSome
    have hAtLeast := hMax deep hMemDeep
    have hAtMost := hNone deepest hMemDeepest
    omega
  · obtain ⟨arrow, hMem, hKind, hIsNamed⟩ := hArrow
    have hTold : (Walker.ofNamed.tellsAll || arrow.node.isNamed) = true := by rw [hIsNamed]; rfl
    exact ⟨arrow, hMem, hKind, (hAll arrow hMem).1.mpr rfl, (hNamed arrow hMem).1.mpr hTold,
      (hNamed arrow hMem).2.mpr hTold⟩
  · obtain ⟨keyword, hMem, hKind, hUnnamed⟩ := hKeyword
    have hPassed : ¬(Walker.ofNamed.tellsAll || keyword.node.isNamed) = true := by
      rw [hUnnamed]
      exact Bool.false_ne_true
    exact ⟨keyword, hMem, hKind, (hAll keyword hMem).1.mpr rfl, (hAll keyword hMem).2.mpr rfl,
      fun hIn => hPassed ((hNamed keyword hMem).1.mp hIn),
      fun hIn => hPassed ((hNamed keyword hMem).2.mp hIn)⟩

end ScriptAnalysis.Walk
