import ScriptAnalysis.Syntax.Cursor

/-!
# Traversals

A visitor says what it reports on entering and on leaving a node, and whether it goes on to the
node's children. `Visitor.run` moves a cursor over the tree: down to the first child, else along to
the next sibling, else up. `Visitor.visit` is the same report by recursion on the tree.

* `run_atRoot`: the cursor's report is the recursive one. Each node is entered at most once, and
  what is entered is left after its children.
-/

namespace ScriptAnalysis.Syntax

/-- What is reported on the way over a tree; a node is given with its ancestors, nearest first. -/
structure Visitor (ε : Type) where
  enter : List Node → Node → List ε
  descends : List Node → Node → Bool
  leave : List Node → Node → List ε

namespace Visitor

variable {ε : Type}

/-! ## By moving a cursor -/

/-- Leave the node under the cursor and each node above it that has no sibling to the right; what
was reported, and the next node to enter. -/
def climb (visitor : Visitor ε) (cursor : Cursor) : List ε × Option Cursor :=
  match cursor.nextSibling? with
  | some beside => (visitor.leave cursor.ancestors cursor.node, some beside)
  | none =>
    match _h : cursor.parent? with
    | some above =>
      (visitor.climb above).map (visitor.leave cursor.ancestors cursor.node ++ ·) id
    | none => (visitor.leave cursor.ancestors cursor.node, none)
termination_by cursor.path.length
decreasing_by all_goals exact Cursor.path_of_parent? _h

theorem pending_of_climb (visitor : Visitor ε) {cursor next : Cursor}
    (h : (visitor.climb cursor).2 = some next) : next.pending = cursor.ahead := by
  fun_induction visitor.climb cursor with
  | case1 cursor beside hBeside =>
    obtain rfl := Option.some.inj h
    exact Cursor.pending_of_nextSibling? hBeside
  | case2 cursor hNone above hAbove ih =>
    rw [ih (by simpa using h)]
    exact Cursor.ahead_of_parent? hNone hAbove
  | case3 => simp at h

/-- Enter the node under the cursor, then its children if the visitor goes on to them, then all that
comes after. -/
def run (visitor : Visitor ε) (cursor : Cursor) : List ε :=
  match _h : if visitor.descends cursor.ancestors cursor.node then cursor.firstChild? else none with
  | some below => visitor.enter cursor.ancestors cursor.node ++ visitor.run below
  | none =>
    match _h : (visitor.climb cursor).2 with
    | some next =>
      visitor.enter cursor.ancestors cursor.node ++ ((visitor.climb cursor).1 ++ visitor.run next)
    | none => visitor.enter cursor.ancestors cursor.node ++ (visitor.climb cursor).1
termination_by cursor.pending
decreasing_by
  · split at _h
    · exact Cursor.pending_of_firstChild? _h
    · cases _h
  · rw [visitor.pending_of_climb _h]
    exact cursor.ahead_lt_pending

/-! ## By recursion -/

mutual

/-- What is reported of a node and of all below it. -/
def visit (visitor : Visitor ε) (ancestors : List Node) : Node → List ε
  | .mk label children =>
    visitor.enter ancestors (.mk label children) ++
      ((if visitor.descends ancestors (.mk label children) then
          visitAll visitor (.mk label children :: ancestors) children
        else []) ++
        visitor.leave ancestors (.mk label children))

/-- What is reported of some siblings and of all below them. -/
def visitAll (visitor : Visitor ε) (ancestors : List Node) : List Node → List ε
  | [] => []
  | node :: rest => visit visitor ancestors node ++ visitAll visitor ancestors rest

end

theorem visit_eq (visitor : Visitor ε) (ancestors : List Node) (node : Node) :
    visitor.visit ancestors node =
      visitor.enter ancestors node ++
        ((if visitor.descends ancestors node then
            visitor.visitAll (node :: ancestors) node.children
          else []) ++
          visitor.leave ancestors node) := by
  cases node; rw [visit, Node.children_mk]

/-- What is still to be reported after the whole of the node a path leads up from. -/
def rest (visitor : Visitor ε) : List Crumb → List ε
  | [] => []
  | crumb :: up =>
    visitor.visitAll (crumb.parent :: up.map Crumb.parent) crumb.right ++
      (visitor.leave (up.map Crumb.parent) crumb.parent ++ visitor.rest up)

/-- What is still to be reported from the next node to enter, if there is one. -/
def restFrom (visitor : Visitor ε) : Option Cursor → List ε
  | some next => visitor.visit next.ancestors next.node ++ visitor.rest next.path
  | none => []

/-! ## The two agree -/

/-- Climbing reports the leaves up to the next node to enter; with that node and what follows it,
this is all that is still to be reported. -/
private theorem climb_rest (visitor : Visitor ε) (cursor : Cursor) :
    (visitor.climb cursor).1 ++ visitor.restFrom (visitor.climb cursor).2 =
      visitor.leave cursor.ancestors cursor.node ++ visitor.rest cursor.path := by
  fun_induction visitor.climb cursor with
  | case1 cursor beside hBeside =>
    obtain ⟨parent, right, up, hPath, hRight⟩ := Cursor.of_nextSibling? hBeside
    simp [restFrom, rest, visitAll, Cursor.ancestors, hPath, hRight]
  | case2 cursor hNone above hAbove ih =>
    rw [Prod.map_fst, Prod.map_snd, id, List.append_assoc, ih,
      Cursor.of_parent?_of_last hNone hAbove]
    simp [rest, visitAll, Cursor.ancestors]
  | case3 cursor _ hRoot => simp [restFrom, rest, Cursor.path_of_root hRoot]

/-- Where the visitor does not go on to a child, a node is entered and left at once. -/
private theorem visit_of_stay {visitor : Visitor ε} {cursor : Cursor}
    (h : (if visitor.descends cursor.ancestors cursor.node then cursor.firstChild? else none) =
      none) :
    visitor.visit cursor.ancestors cursor.node =
      visitor.enter cursor.ancestors cursor.node ++
        visitor.leave cursor.ancestors cursor.node := by
  obtain ⟨⟨label, children⟩, path⟩ := cursor
  rw [visit_eq]
  cases children with
  | nil => simp [visitAll]
  | cons child right =>
    split at h
    · simp [Cursor.firstChild?] at h
    · rename_i hStay
      rw [if_neg hStay, List.nil_append]

/-- **From any cursor** a traversal reports the node, and then all that a path still holds. -/
theorem run_eq (visitor : Visitor ε) (cursor : Cursor) :
    visitor.run cursor =
      visitor.visit cursor.ancestors cursor.node ++ visitor.rest cursor.path := by
  fun_induction visitor.run cursor with
  | case1 cursor below hBelow ih =>
    rw [ih, visit_eq visitor cursor.ancestors]
    split at hBelow
    · rename_i hDescends
      obtain ⟨right, hChildren, hPath⟩ := Cursor.of_firstChild? hBelow
      rw [if_pos hDescends, hChildren, hPath]
      simp [rest, visitAll, Cursor.ancestors, hPath]
    · cases hBelow
  | case2 cursor hStay next hNext ih =>
    have hClimb := visitor.climb_rest cursor
    rw [hNext, restFrom] at hClimb
    rw [ih, hClimb, visit_of_stay hStay, List.append_assoc]
  | case3 cursor hStay hEnd =>
    have hClimb := visitor.climb_rest cursor
    rw [hEnd, restFrom, List.append_nil] at hClimb
    rw [hClimb, visit_of_stay hStay, List.append_assoc]

/-- **A traversal is the recursion on the tree.** -/
theorem run_atRoot (visitor : Visitor ε) (root : Node) :
    visitor.run (.atRoot root) = visitor.visit [] root := by
  simp [run_eq, Cursor.atRoot, Cursor.ancestors, rest]

end Visitor

end ScriptAnalysis.Syntax
