import ScriptAnalysis.Syntax.Node

/-!
# A cursor on a tree

A cursor is a node together with its way up: for each step down, the parent and the siblings to the
right of the child taken. It moves to the first child, to the next sibling and to the parent.

`pending` counts the nodes a traversal has still to examine, the one under the cursor included, and
`ahead` those that come after the whole of it.

* `pending_of_firstChild?`: a move to the first child lowers `pending`.
* `pending_of_nextSibling?`: from the next sibling on, what was ahead is pending.
* `ahead_of_parent?`: a move to the parent, from a last child, keeps what is ahead.
-/

namespace ScriptAnalysis.Syntax

/-- One step of the way up from a node. -/
structure Crumb where
  parent : Node
  right : List Node

/-- A node and its way up, the nearest step first. -/
structure Cursor where
  node : Node
  path : List Crumb

namespace Cursor

def atRoot (root : Node) : Cursor := ⟨root, []⟩

/-- The nodes above the cursor, the nearest first. -/
def ancestors (cursor : Cursor) : List Node := cursor.path.map Crumb.parent

def firstChild? (cursor : Cursor) : Option Cursor :=
  match cursor.node.children with
  | [] => none
  | child :: right => some ⟨child, ⟨cursor.node, right⟩ :: cursor.path⟩

def nextSibling? (cursor : Cursor) : Option Cursor :=
  match cursor.path with
  | ⟨parent, sibling :: right⟩ :: up => some ⟨sibling, ⟨parent, right⟩ :: up⟩
  | _ => none

def parent? (cursor : Cursor) : Option Cursor :=
  match cursor.path with
  | ⟨parent, _⟩ :: up => some ⟨parent, up⟩
  | [] => none

/-! ## What a move says -/

theorem of_firstChild? {cursor below : Cursor} (h : cursor.firstChild? = some below) :
    ∃ right, cursor.node.children = below.node :: right ∧
      below.path = ⟨cursor.node, right⟩ :: cursor.path := by
  rw [firstChild?] at h
  split at h
  · cases h
  · rename_i child right hChildren
    obtain rfl := Option.some.inj h
    exact ⟨right, hChildren, rfl⟩

theorem of_nextSibling? {cursor beside : Cursor} (h : cursor.nextSibling? = some beside) :
    ∃ parent right up, cursor.path = ⟨parent, beside.node :: right⟩ :: up ∧
      beside.path = ⟨parent, right⟩ :: up := by
  rw [nextSibling?] at h
  split at h
  · rename_i parent sibling right up hPath
    obtain rfl := Option.some.inj h
    exact ⟨parent, right, up, hPath, rfl⟩
  · cases h

theorem of_parent? {cursor above : Cursor} (h : cursor.parent? = some above) :
    ∃ right, cursor.path = ⟨above.node, right⟩ :: above.path := by
  rw [parent?] at h
  split at h
  · rename_i parent right up hPath
    obtain rfl := Option.some.inj h
    exact ⟨right, hPath⟩
  · cases h

/-- With no sibling to the right, the parent has no more children. -/
theorem of_parent?_of_last {cursor above : Cursor} (hNone : cursor.nextSibling? = none)
    (h : cursor.parent? = some above) : cursor.path = ⟨above.node, []⟩ :: above.path := by
  obtain ⟨right, hPath⟩ := of_parent? h
  cases right with
  | nil => exact hPath
  | cons sibling right => simp [nextSibling?, hPath] at hNone

theorem path_of_root {cursor : Cursor} (h : cursor.parent? = none) : cursor.path = [] := by
  rw [parent?] at h
  split at h
  · cases h
  · assumption

theorem path_of_parent? {cursor above : Cursor} (h : cursor.parent? = some above) :
    above.path.length < cursor.path.length := by
  obtain ⟨right, hPath⟩ := of_parent? h
  simp [hPath]

/-! ## What is left of a traversal -/

/-- The number of nodes to the right of a way up. -/
def aheadOf : List Crumb → Nat
  | [] => 0
  | crumb :: up => Node.sizeAll crumb.right + aheadOf up

/-- The number of nodes to the right of the cursor's way up. -/
def ahead (cursor : Cursor) : Nat := aheadOf cursor.path

/-- The number of nodes still to be examined: those under the cursor and those ahead of it. -/
def pending (cursor : Cursor) : Nat := cursor.node.size + cursor.ahead

theorem ahead_lt_pending (cursor : Cursor) : cursor.ahead < cursor.pending := by
  have := cursor.node.size_pos
  simp only [pending]
  omega

theorem pending_of_firstChild? {cursor below : Cursor} (h : cursor.firstChild? = some below) :
    below.pending < cursor.pending := by
  obtain ⟨right, hChildren, hPath⟩ := of_firstChild? h
  have hSize := cursor.node.size_eq
  rw [hChildren, Node.sizeAll] at hSize
  simp only [pending, ahead, hPath, aheadOf]
  omega

theorem pending_of_nextSibling? {cursor beside : Cursor}
    (h : cursor.nextSibling? = some beside) : beside.pending = cursor.ahead := by
  obtain ⟨parent, right, up, hPath, hBeside⟩ := of_nextSibling? h
  simp only [pending, ahead, hPath, hBeside, aheadOf, Node.sizeAll]
  omega

/-- With no sibling to the right, as much is ahead of the parent. -/
theorem ahead_of_parent? {cursor above : Cursor} (hNone : cursor.nextSibling? = none)
    (h : cursor.parent? = some above) : above.ahead = cursor.ahead := by
  simp [ahead, of_parent?_of_last hNone h, aheadOf, Node.sizeAll]

end Cursor

end ScriptAnalysis.Syntax
