import ScriptAnalysis.Syntax.Traversal

/-!
# Positions in a tree

A cursor without its tree is a position: a node with the way up from it.  `Node.positions` lists the
positions of a tree in the order of the text, parents first, by recursion on the tree.
`Visitor.stops` lists those that a traversal enters, in the order it comes to them.

* `run_eq_stops`: a traversal reports what it reports on entering its stops.
* `stops_pairwise`: with every stop less is pending, so no position is entered twice.
* `stops_atRoot`: a traversal that goes on to the children of a node unless the node hides them
  enters exactly the positions with no hiding node above them.
* `mem_nodes_of_child`: what is below a node of a tree is a node of the tree.
* `exists_above_of_hidden`: below a hiding node means below one that is not hidden itself.
-/

namespace ScriptAnalysis.Syntax

namespace Node

mutual

/-- The positions of a tree at the end of a path, in the order of the text. -/
def positionsAt (path : List Crumb) : Node → List Cursor
  | .mk label children =>
    ⟨.mk label children, path⟩ :: positionsAll path (.mk label children) children

/-- The positions of some last children of a node at the end of a path. -/
def positionsAll (path : List Crumb) (parent : Node) : List Node → List Cursor
  | [] => []
  | child :: right => positionsAt (⟨parent, right⟩ :: path) child ++ positionsAll path parent right

end

/-- The positions of a tree, in the order of the text. -/
def positions (root : Node) : List Cursor := root.positionsAt []

theorem positionsAt_eq (path : List Crumb) (node : Node) :
    node.positionsAt path = ⟨node, path⟩ :: positionsAll path node node.children := by
  cases node; rw [positionsAt, children_mk]

theorem mem_positionsAll {path : List Crumb} {parent : Node} {cursor : Cursor} :
    ∀ {nodes : List Node}, cursor ∈ positionsAll path parent nodes →
      ∃ child ∈ nodes, ∃ right, cursor ∈ child.positionsAt (⟨parent, right⟩ :: path) ∧
        ∀ other ∈ child.positionsAt (⟨parent, right⟩ :: path),
          other ∈ positionsAll path parent nodes := by
  intro nodes
  induction nodes with
  | nil => intro h; rw [positionsAll] at h; cases h
  | cons child right ih =>
    intro h
    rw [positionsAll] at h ⊢
    rcases List.mem_append.mp h with hHere | hRight
    · exact ⟨child, by simp, right, hHere, fun other hOther => List.mem_append_left _ hOther⟩
    · obtain ⟨found, hFound, beside, hMem, hAll⟩ := ih hRight
      exact ⟨found, List.mem_cons_of_mem _ hFound, beside, hMem,
        fun other hOther => List.mem_append_right _ (hAll other hOther)⟩

theorem length_positionsAll (path : List Crumb) (parent : Node) : ∀ nodes : List Node,
    (∀ child ∈ nodes, ∀ down, (child.positionsAt down).length = child.size) →
    (positionsAll path parent nodes).length = sizeAll nodes := by
  intro nodes
  induction nodes with
  | nil => intro _; rw [positionsAll, sizeAll, List.length_nil]
  | cons child right ih =>
    intro h
    rw [positionsAll, sizeAll, List.length_append, h child (by simp),
      ih fun other hOther => h other (by simp [hOther])]

/-- There are as many positions as nodes. -/
theorem length_positionsAt : ∀ (node : Node) (path : List Crumb),
    (node.positionsAt path).length = node.size := by
  intro node
  induction node using Node.induction with
  | node label children ih =>
    intro path
    rw [positionsAt, size, List.length_cons, length_positionsAll path _ children ih]
    omega

/-- Every position of a tree is its root, or below another one. -/
theorem root_or_parent_mem : ∀ (node : Node) (path : List Crumb) (cursor : Cursor),
    cursor ∈ node.positionsAt path →
    cursor = ⟨node, path⟩ ∨ ∃ above ∈ node.positionsAt path, cursor.parent? = some above := by
  intro node
  induction node using Node.induction with
  | node label children ih =>
    intro path cursor h
    rw [positionsAt] at h ⊢
    rcases List.mem_cons.mp h with rfl | hBelow
    · exact Or.inl rfl
    · obtain ⟨child, hChild, right, hMem, hAll⟩ := mem_positionsAll hBelow
      rcases ih child hChild _ cursor hMem with rfl | ⟨above, hAbove, hParent⟩
      · exact Or.inr ⟨⟨.mk label children, path⟩, List.mem_cons_self, rfl⟩
      · exact Or.inr ⟨above, List.mem_cons_of_mem _ (hAll above hAbove), hParent⟩

/-- Below a node at the end of a path, the node and the path are above. -/
theorem ancestors_of_mem_positionsAt : ∀ (node : Node) (path : List Crumb) (cursor : Cursor),
    cursor ∈ node.positionsAt path → path.map Crumb.parent <:+ cursor.ancestors := by
  intro node
  induction node using Node.induction with
  | node label children ih =>
    intro path cursor h
    rw [positionsAt] at h
    rcases List.mem_cons.mp h with rfl | hBelow
    · exact List.suffix_rfl
    · obtain ⟨child, hChild, right, hMem, -⟩ := mem_positionsAll hBelow
      exact (List.suffix_cons _ _).trans (ih child hChild _ cursor hMem)

/-! ### The nodes of a tree -/

/-- The nodes of a tree, in the order of the text. -/
def nodes (root : Node) : List Node := root.positions.map Cursor.node

theorem mem_positionsAll_of_mem {path : List Crumb} {parent child : Node} :
    ∀ {nodes : List Node}, child ∈ nodes →
      ∃ right, (⟨child, ⟨parent, right⟩ :: path⟩ : Cursor) ∈ positionsAll path parent nodes := by
  intro nodes
  induction nodes with
  | nil => intro h; cases h
  | cons first right ih =>
    intro h
    rw [positionsAll]
    rcases List.mem_cons.mp h with rfl | hRight
    · refine ⟨right, List.mem_append_left _ ?_⟩
      rw [positionsAt_eq]
      exact List.mem_cons_self
    · obtain ⟨beside, hMem⟩ := ih hRight
      exact ⟨beside, List.mem_append_right _ hMem⟩

/-- At every position of a tree, the children of the node have positions too. -/
theorem exists_position_of_child : ∀ (node : Node) (path : List Crumb) (cursor : Cursor),
    cursor ∈ node.positionsAt path → ∀ child ∈ cursor.node.children,
      ∃ below ∈ node.positionsAt path, below.node = child := by
  intro node
  induction node using Node.induction with
  | node label children ih =>
    intro path cursor h child hChild
    rw [positionsAt] at h ⊢
    rcases List.mem_cons.mp h with rfl | hBelow
    · obtain ⟨right, hMem⟩ := mem_positionsAll_of_mem hChild
      exact ⟨_, List.mem_cons_of_mem _ hMem, rfl⟩
    · obtain ⟨above, hAbove, right, hMem, hAll⟩ := mem_positionsAll hBelow
      obtain ⟨below, hIn, hNode⟩ := ih above hAbove _ cursor hMem child hChild
      exact ⟨below, List.mem_cons_of_mem _ (hAll below hIn), hNode⟩

theorem mem_nodes_of_child {root node child : Node} (h : node ∈ root.nodes)
    (hChild : child ∈ node.children) : child ∈ root.nodes := by
  obtain ⟨cursor, hMem, rfl⟩ := List.mem_map.mp h
  obtain ⟨below, hBelow, hNode⟩ := exists_position_of_child root [] cursor hMem child hChild
  exact List.mem_map.mpr ⟨below, hBelow, hNode⟩

theorem childOf?_mem_nodes {root node child : Node} {field : String} (h : node ∈ root.nodes)
    (hChild : node.childOf? field = some child) : child ∈ root.nodes :=
  mem_nodes_of_child h (List.mem_of_find?_eq_some hChild)

theorem childOfKind?_mem_nodes {root node child : Node} {kind : String} (h : node ∈ root.nodes)
    (hChild : node.childOfKind? kind = some child) : child ∈ root.nodes :=
  mem_nodes_of_child h (List.mem_of_find?_eq_some hChild)

theorem firstLeaf_mem_nodes {root : Node} : ∀ node : Node, node ∈ root.nodes →
    node.firstLeaf ∈ root.nodes := by
  intro node
  induction node using Node.induction with
  | node label children ih =>
    intro h
    cases children with
    | nil =>
      rw [firstLeaf]
      exact h
    | cons child right =>
      rw [firstLeaf]
      exact ih child List.mem_cons_self (mem_nodes_of_child h List.mem_cons_self)

theorem lastLeafOfLast?_eq (children : List Node) :
    lastLeafOfLast? children = children.getLast?.map lastLeaf := by
  induction children with
  | nil => rfl
  | cons child right ih =>
    cases right with
    | nil => rfl
    | cons next rest => rw [lastLeafOfLast?, ih, List.getLast?_cons_cons]

theorem lastLeaf_mem_nodes {root : Node} : ∀ node : Node, node ∈ root.nodes →
    node.lastLeaf ∈ root.nodes := by
  intro node
  induction node using Node.induction with
  | node label children ih =>
    intro h
    rw [lastLeaf, lastLeafOfLast?_eq]
    cases hLast : children.getLast? with
    | none => exact h
    | some last =>
      have hMem : last ∈ children := List.mem_of_getLast? hLast
      exact ih last hMem (mem_nodes_of_child h hMem)

theorem parent_mem_ancestors {path : List Crumb} {parent : Node} {nodes : List Node}
    {cursor : Cursor} (h : cursor ∈ positionsAll path parent nodes) :
    parent ∈ cursor.ancestors := by
  obtain ⟨child, -, right, hMem, -⟩ := mem_positionsAll h
  exact (ancestors_of_mem_positionsAt child _ cursor hMem).subset (by simp)

end Node

namespace Cursor

/-- The positions to the right of a way up. -/
def beyond : List Crumb → List Cursor
  | [] => []
  | crumb :: up => Node.positionsAll up crumb.parent crumb.right ++ beyond up

/-- The positions from the cursor on. -/
def onward (cursor : Cursor) : List Cursor :=
  cursor.node.positionsAt cursor.path ++ beyond cursor.path

theorem onward_atRoot (root : Node) : (atRoot root).onward = root.positions := by
  rw [onward, atRoot, beyond, List.append_nil, Node.positions]

/-- The positions among some that have no hiding node above them. -/
def seen (hides : Node → Bool) (cursors : List Cursor) : List Cursor :=
  cursors.filter fun cursor => !cursor.ancestors.any hides

theorem seen_append (hides : Node → Bool) (first second : List Cursor) :
    seen hides (first ++ second) = seen hides first ++ seen hides second := List.filter_append ..

theorem seen_cons {hides : Node → Bool} {cursor : Cursor}
    (h : cursor.ancestors.any hides = false) (rest : List Cursor) :
    seen hides (cursor :: rest) = cursor :: seen hides rest := by
  rw [seen, List.filter_cons_of_pos]
  · rfl
  · rw [h]
    rfl

theorem mem_seen {hides : Node → Bool} {cursors : List Cursor} {cursor : Cursor} :
    cursor ∈ seen hides cursors ↔ cursor ∈ cursors ∧ cursor.ancestors.any hides = false := by
  rw [seen, List.mem_filter, Bool.not_eq_true']

/-- A position is above another: the other comes to it by moves to the parent. -/
inductive Above : Cursor → Cursor → Prop
  | parent {above cursor : Cursor} : cursor.parent? = some above → Above above cursor
  | further {above between cursor : Cursor} : cursor.parent? = some between →
      Above above between → Above above cursor

theorem ancestors_of_firstChild? {cursor below : Cursor} (h : cursor.firstChild? = some below) :
    below.ancestors = cursor.node :: cursor.ancestors := by
  obtain ⟨right, -, hPath⟩ := of_firstChild? h
  rw [ancestors, hPath]
  rfl

theorem ancestors_of_nextSibling? {cursor beside : Cursor}
    (h : cursor.nextSibling? = some beside) : beside.ancestors = cursor.ancestors := by
  obtain ⟨parent, right, up, hPath, hBeside⟩ := of_nextSibling? h
  rw [ancestors, ancestors, hPath, hBeside]
  rfl

theorem ancestors_of_parent? {cursor above : Cursor} (h : cursor.parent? = some above) :
    cursor.ancestors = above.node :: above.ancestors := by
  obtain ⟨right, hPath⟩ := of_parent? h
  rw [ancestors, hPath]
  rfl

/-- **A position below a hiding node** is below one that is not hidden itself: the topmost. -/
theorem exists_above_of_hidden {hides : Node → Bool} {root : Node} (cursor : Cursor)
    (hMem : cursor ∈ root.positions) (hHidden : cursor.ancestors.any hides = true) :
    ∃ above ∈ root.positions, Above above cursor ∧ above.ancestors.any hides = false ∧
      hides above.node = true := by
  rcases Node.root_or_parent_mem root [] cursor hMem with rfl | ⟨above, hAbove, hParent⟩
  · cases hHidden
  · rw [ancestors_of_parent? hParent, List.any_cons, Bool.or_eq_true] at hHidden
    cases hUp : above.ancestors.any hides with
    | false =>
      rcases hHidden with hHides | hHides
      · exact ⟨above, hAbove, .parent hParent, hUp, hHides⟩
      · rw [hUp] at hHides
        cases hHides
    | true =>
      obtain ⟨top, hTop, hBetween, hRest⟩ := exists_above_of_hidden above hAbove hUp
      exact ⟨top, hTop, .further hParent hBetween, hRest⟩
termination_by cursor.path.length
decreasing_by exact path_of_parent? hParent

end Cursor

namespace Visitor

variable {ε : Type} {visitor : Visitor ε} {hides : Node → Bool}

/-! ### The stops of a traversal -/

/-- The position a traversal comes to next. -/
def next? (visitor : Visitor ε) (cursor : Cursor) : Option Cursor :=
  match if visitor.descends cursor.ancestors cursor.node then cursor.firstChild? else none with
  | some below => some below
  | none => (visitor.climb cursor).2

theorem pending_of_next? {cursor next : Cursor} (h : visitor.next? cursor = some next) :
    next.pending < cursor.pending := by
  rw [next?] at h
  split at h
  · rename_i below hBelow
    obtain rfl := Option.some.inj h
    split at hBelow
    · exact Cursor.pending_of_firstChild? hBelow
    · cases hBelow
  · rw [visitor.pending_of_climb h]
    exact cursor.ahead_lt_pending

/-- The positions that a traversal enters from the cursor on. -/
def stops (visitor : Visitor ε) (cursor : Cursor) : List Cursor :=
  cursor ::
    match _h : visitor.next? cursor with
    | some next => visitor.stops next
    | none => []
termination_by cursor.pending
decreasing_by exact pending_of_next? _h

theorem stops_of_next?_some {cursor next : Cursor} (h : visitor.next? cursor = some next) :
    visitor.stops cursor = cursor :: visitor.stops next := by
  rw [stops]
  split
  · rename_i other hOther
    obtain rfl := Option.some.inj (h.symm.trans hOther)
    rfl
  · rename_i hNone
    rw [h] at hNone
    cases hNone

theorem stops_of_next?_none {cursor : Cursor} (h : visitor.next? cursor = none) :
    visitor.stops cursor = [cursor] := by
  rw [stops]
  split
  · rename_i next hNext
    rw [h] at hNext
    cases hNext
  · rfl

theorem climb_fst (hLeave : ∀ ancestors node, visitor.leave ancestors node = [])
    (cursor : Cursor) : (visitor.climb cursor).1 = [] := by
  fun_induction visitor.climb cursor with
  | case1 cursor beside _ => exact hLeave _ _
  | case2 cursor _ above _ ih => rw [Prod.map_fst, ih, hLeave, List.append_nil]
  | case3 cursor _ _ => exact hLeave _ _

/-- **What a traversal reports** is what it reports on entering its stops, when it reports nothing
on leaving a node. -/
theorem run_eq_stops (hLeave : ∀ ancestors node, visitor.leave ancestors node = [])
    (cursor : Cursor) :
    visitor.run cursor =
      (visitor.stops cursor).flatMap fun stop => visitor.enter stop.ancestors stop.node := by
  fun_induction visitor.run cursor with
  | case1 cursor below hBelow ih =>
    have hNext : visitor.next? cursor = some below := by
      rw [dite_eq_ite] at hBelow
      rw [next?, hBelow]
    rw [stops_of_next?_some hNext, List.flatMap_cons, ih]
  | case2 cursor hStay next hClimb ih =>
    have hNext : visitor.next? cursor = some next := by
      rw [dite_eq_ite] at hStay
      rw [next?, hStay, hClimb]
    rw [stops_of_next?_some hNext, List.flatMap_cons, climb_fst hLeave, List.nil_append, ih]
  | case3 cursor hStay hClimb =>
    have hNext : visitor.next? cursor = none := by
      rw [dite_eq_ite] at hStay
      rw [next?, hStay, hClimb]
    rw [stops_of_next?_none hNext, List.flatMap_cons, climb_fst hLeave, List.flatMap_nil]

theorem pending_le_of_mem_stops {cursor stop : Cursor} (h : stop ∈ visitor.stops cursor) :
    stop.pending ≤ cursor.pending := by
  fun_induction visitor.stops cursor with
  | case1 cursor ih =>
    rcases List.mem_cons.mp h with rfl | hLater
    · exact Nat.le_refl _
    · split at hLater
      · rename_i next hNext
        have hLe := ih next hNext hLater
        have hLt := pending_of_next? hNext
        omega
      · cases hLater

/-- **At every stop less is pending** than at those before. -/
theorem stops_pairwise (cursor : Cursor) :
    (visitor.stops cursor).Pairwise fun earlier later => later.pending < earlier.pending := by
  fun_induction visitor.stops cursor with
  | case1 cursor ih =>
    refine List.pairwise_cons.mpr ⟨?_, ?_⟩
    · intro later hLater
      split at hLater
      · rename_i next hNext
        have hLe := pending_le_of_mem_stops hLater
        have hLt := pending_of_next? hNext
        omega
      · cases hLater
    · split
      · rename_i next hNext
        exact ih next hNext
      · exact List.Pairwise.nil

/-- No position is entered twice. -/
theorem nodup_stops (cursor : Cursor) : (visitor.stops cursor).Nodup := by
  refine (stops_pairwise cursor).imp ?_
  intro earlier later hLess hSame
  rw [hSame] at hLess
  exact Nat.lt_irrefl _ hLess

/-! ### The stops of a traversal that prunes -/

/-- Climbing comes to the first of the positions beyond, if there is one. -/
theorem onward_of_climb (visitor : Visitor ε) (cursor : Cursor) :
    (visitor.climb cursor).2.elim [] Cursor.onward = Cursor.beyond cursor.path := by
  fun_induction visitor.climb cursor with
  | case1 cursor beside hBeside =>
    obtain ⟨parent, right, up, hPath, hRight⟩ := Cursor.of_nextSibling? hBeside
    simp [Cursor.onward, Cursor.beyond, Node.positionsAll, hPath, hRight]
  | case2 cursor hNone above hAbove ih =>
    rw [Prod.map_snd, id, ih, Cursor.of_parent?_of_last hNone hAbove]
    simp [Cursor.beyond, Node.positionsAll]
  | case3 cursor _ hRoot =>
    rw [Cursor.path_of_root hRoot]
    rfl

/-- Climbing comes to a node whose ancestors were above before. -/
theorem ancestors_of_climb {cursor next : Cursor} (h : (visitor.climb cursor).2 = some next) :
    next.ancestors <:+ cursor.ancestors := by
  fun_induction visitor.climb cursor with
  | case1 cursor beside hBeside =>
    obtain rfl := Option.some.inj h
    exact ⟨[], Cursor.ancestors_of_nextSibling? hBeside⟩
  | case2 cursor hNone above hAbove ih =>
    rw [Cursor.ancestors_of_parent? hAbove]
    exact (ih (by simpa using h)).trans (List.suffix_cons _ _)
  | case3 cursor _ _ => simp at h

/-- Where no child is next, what is seen after the node under the cursor is beyond it. -/
theorem seen_onward_of_stay {cursor : Cursor}
    (hNext : visitor.next? cursor = (visitor.climb cursor).2)
    (hNone : Cursor.seen hides
      (Node.positionsAll cursor.path cursor.node cursor.node.children) = []) :
    Cursor.seen hides ((visitor.next? cursor).elim [] Cursor.onward) =
      Cursor.seen hides (Node.positionsAll cursor.path cursor.node cursor.node.children ++
        Cursor.beyond cursor.path) := by
  rw [hNext, onward_of_climb, Cursor.seen_append, hNone, List.nil_append]

section Pruning

variable (hDescends : ∀ ancestors node, visitor.descends ancestors node = !hides node)

include hDescends

/-- A traversal that prunes comes to a node with no hiding node above it. -/
theorem seen_of_next? {cursor next : Cursor} (h : visitor.next? cursor = some next)
    (hSeen : cursor.ancestors.any hides = false) : next.ancestors.any hides = false := by
  rw [next?, hDescends] at h
  split at h
  · rename_i below hBelow
    obtain rfl := Option.some.inj h
    cases hHides : hides cursor.node with
    | true => simp [hHides] at hBelow
    | false =>
      rw [hHides] at hBelow
      rw [Cursor.ancestors_of_firstChild? hBelow, List.any_cons, hHides, hSeen]
      rfl
  · obtain ⟨near, hAncestors⟩ := ancestors_of_climb h
    rw [← hAncestors, List.any_append, Bool.or_eq_false_iff] at hSeen
    exact hSeen.2

/-- A traversal that prunes comes next to the first position that is seen after the node under the
cursor. -/
theorem seen_onward_of_next? (cursor : Cursor) :
    Cursor.seen hides ((visitor.next? cursor).elim [] Cursor.onward) =
      Cursor.seen hides (Node.positionsAll cursor.path cursor.node cursor.node.children ++
        Cursor.beyond cursor.path) := by
  obtain ⟨⟨label, children⟩, path⟩ := cursor
  cases hHides : hides (.mk label children) with
  | true =>
    refine seen_onward_of_stay (by simp [next?, hDescends, hHides]) ?_
    refine List.filter_eq_nil_iff.mpr fun stop hMem => ?_
    have hAny : stop.ancestors.any hides = true :=
      List.any_eq_true.mpr ⟨_, Node.parent_mem_ancestors hMem, hHides⟩
    rw [hAny]
    exact Bool.false_ne_true
  | false =>
    cases children with
    | nil => exact seen_onward_of_stay (by simp [next?, Cursor.firstChild?]) rfl
    | cons child right =>
      have hNext : visitor.next? ⟨.mk label (child :: right), path⟩ =
          some ⟨child, ⟨.mk label (child :: right), right⟩ :: path⟩ := by
        simp [next?, hDescends, hHides, Cursor.firstChild?]
      rw [hNext, Option.elim_some, Cursor.onward, Cursor.beyond, ← List.append_assoc,
        Node.children_mk, Node.positionsAll]

/-- **From any cursor** with no hiding node above it, a traversal that prunes enters what is seen of
the positions onward. -/
theorem stops_eq (cursor : Cursor) (hSeen : cursor.ancestors.any hides = false) :
    visitor.stops cursor = Cursor.seen hides cursor.onward := by
  -- The induction is on the stops; that no hiding node is above the cursor is kept at each.
  fun_induction visitor.stops cursor with
  | case1 cursor ih =>
    rw [Cursor.onward, Node.positionsAt_eq, List.cons_append, Cursor.seen_cons hSeen,
      ← seen_onward_of_next? hDescends]
    split
    · rename_i next hNext
      rw [ih next hNext (seen_of_next? hDescends hNext hSeen), hNext, Option.elim_some]
    · rename_i hNone
      rw [hNone, Option.elim_none]
      rfl

/-- **A traversal that prunes** enters what no node hides, in the order of the text. -/
theorem stops_atRoot (root : Node) :
    visitor.stops (.atRoot root) = Cursor.seen hides root.positions := by
  rw [stops_eq hDescends _ rfl, Cursor.onward_atRoot]

end Pruning

end Visitor

end ScriptAnalysis.Syntax
