import ScriptAnalysis.Proofs.Positions

/-!
# What lies below a position

The positions below a cursor are those of the trees of its node's children, in the order of the
text.

* `mem_below_iff`: at the positions of a tree, to be listed below another is to come to it by moves
  to the parent.
* `nodes_mk`: the nodes of a tree are its root and the nodes of the trees below.
* `mem_nodes_of_mem_ancestors`: the ancestors of a node are nodes with children, and it is among
  what is below them.
* `seen_positions_refine`: what is seen when less is hidden is what is seen when more is, each node
  that hides more being followed by what is seen below it.
-/

namespace ScriptAnalysis.Syntax

namespace Cursor

/-- The positions below the cursor, in the order of the text. -/
def below (cursor : Cursor) : List Cursor :=
  Node.positionsAll cursor.path cursor.node cursor.node.children

theorem Above.trans {first second third : Cursor} (h : Above first second)
    (hNext : Above second third) : Above first third := by
  induction hNext with
  | parent hParent => exact .further hParent h
  | further hParent _ ih => exact .further hParent ih

end Cursor

namespace Node

open Cursor (Above)

theorem positionsAt_eq_below (path : List Crumb) (node : Node) :
    node.positionsAt path = ⟨node, path⟩ :: Cursor.below ⟨node, path⟩ := positionsAt_eq path node

/-- What lies below a position of a tree lies in the tree. -/
theorem below_subset : ∀ (node : Node) (path : List Crumb) (cursor : Cursor),
    cursor ∈ node.positionsAt path → ∀ other ∈ cursor.below, other ∈ node.positionsAt path := by
  intro node
  induction node using Node.induction with
  | node label children ih =>
    intro path cursor h other hOther
    rw [positionsAt] at h ⊢
    rcases List.mem_cons.mp h with rfl | hBelow
    · exact List.mem_cons_of_mem _ hOther
    · obtain ⟨child, hChild, right, hMem, hAll⟩ := mem_positionsAll hBelow
      exact List.mem_cons_of_mem _ (hAll other (ih child hChild _ cursor hMem other hOther))

/-- Every position of a tree is its root, or lies below the one it comes to by a move to the
parent. -/
theorem root_or_mem_below : ∀ (node : Node) (path : List Crumb) (cursor : Cursor),
    cursor ∈ node.positionsAt path →
    cursor = ⟨node, path⟩ ∨ ∃ above ∈ node.positionsAt path,
      cursor.parent? = some above ∧ cursor ∈ above.below := by
  intro node
  induction node using Node.induction with
  | node label children ih =>
    intro path cursor h
    rw [positionsAt] at h ⊢
    rcases List.mem_cons.mp h with rfl | hBelow
    · exact Or.inl rfl
    · obtain ⟨child, hChild, right, hMem, hAll⟩ := mem_positionsAll hBelow
      rcases ih child hChild _ cursor hMem with rfl | ⟨above, hAbove, hParent, hIn⟩
      · exact Or.inr ⟨⟨.mk label children, path⟩, List.mem_cons_self, rfl, hBelow⟩
      · exact Or.inr ⟨above, List.mem_cons_of_mem _ (hAll above hAbove), hParent, hIn⟩

/-- At the end of a path, the path's last step is above. -/
theorem above_of_mem_positionsAt : ∀ (node : Node) (crumb : Crumb) (up : List Crumb)
    (cursor : Cursor), cursor ∈ node.positionsAt (crumb :: up) →
    Above ⟨crumb.parent, up⟩ cursor := by
  intro node
  induction node using Node.induction with
  | node label children ih =>
    intro crumb up cursor h
    rw [positionsAt] at h
    rcases List.mem_cons.mp h with rfl | hBelow
    · exact .parent rfl
    · obtain ⟨child, hChild, right, hMem, -⟩ := mem_positionsAll hBelow
      exact Above.trans (.parent rfl) (ih child hChild _ _ cursor hMem)

end Node

namespace Cursor

theorem above_of_mem_below {above cursor : Cursor} (h : cursor ∈ above.below) :
    Above above cursor := by
  obtain ⟨child, -, right, hMem, -⟩ := Node.mem_positionsAll h
  exact Node.above_of_mem_positionsAt child _ _ cursor hMem

theorem mem_below_trans {first second third : Cursor} (h : second ∈ first.below)
    (hNext : third ∈ second.below) : third ∈ first.below := by
  obtain ⟨child, -, right, hMem, hAll⟩ := Node.mem_positionsAll h
  exact hAll third (Node.below_subset child _ second hMem third hNext)

/-- A position above one of a tree is in the tree, and has the other listed below it. -/
theorem mem_below_of_above {root : Node} {above cursor : Cursor} (hAbove : Above above cursor) :
    cursor ∈ root.positions → above ∈ root.positions ∧ cursor ∈ above.below := by
  induction hAbove with
  | parent hParent =>
    intro hMem
    rcases Node.root_or_mem_below root [] _ hMem with rfl | ⟨found, hFound, hIs, hIn⟩
    · cases hParent
    · obtain rfl := Option.some.inj (hParent.symm.trans hIs)
      exact ⟨hFound, hIn⟩
  | further hParent _ ih =>
    intro hMem
    rcases Node.root_or_mem_below root [] _ hMem with rfl | ⟨found, hFound, hIs, hIn⟩
    · cases hParent
    · obtain rfl := Option.some.inj (hParent.symm.trans hIs)
      obtain ⟨hTop, hBetween⟩ := ih hFound
      exact ⟨hTop, mem_below_trans hBetween hIn⟩

/-- **To lie below** a position of a tree is to come to it by moves to the parent. -/
theorem mem_below_iff {root : Node} {above cursor : Cursor} (hMem : above ∈ root.positions) :
    cursor ∈ above.below ↔ cursor ∈ root.positions ∧ Above above cursor := by
  refine ⟨fun h => ⟨?_, above_of_mem_below h⟩, fun h => (mem_below_of_above h.2 h.1).2⟩
  exact Node.below_subset root [] above hMem cursor h

end Cursor

namespace Node

/-! ### Nodes -/

mutual

/-- The nodes of a tree are the same at the end of any path. -/
theorem map_node_positionsAt (path other : List Crumb) : ∀ node : Node,
    (node.positionsAt path).map Cursor.node = (node.positionsAt other).map Cursor.node
  | .mk label children => by
    rw [positionsAt, positionsAt, List.map_cons, List.map_cons,
      map_node_positionsAll path other _ children]

theorem map_node_positionsAll (path other : List Crumb) (parent : Node) : ∀ nodes : List Node,
    (positionsAll path parent nodes).map Cursor.node =
      (positionsAll other parent nodes).map Cursor.node
  | [] => rfl
  | child :: right => by
    rw [positionsAll, positionsAll, List.map_append, List.map_append,
      map_node_positionsAt _ (⟨parent, right⟩ :: other) child,
      map_node_positionsAll path other parent right]

end

theorem map_node_positionsAll_eq (path : List Crumb) (parent : Node) (nodes : List Node) :
    (positionsAll path parent nodes).map Cursor.node = nodes.flatMap Node.nodes := by
  induction nodes with
  | nil => rfl
  | cons child right ih =>
    rw [positionsAll, List.map_append, ih, map_node_positionsAt _ [] child, List.flatMap_cons]
    rfl

/-- **The nodes of a tree** are its root and those of the trees below. -/
theorem nodes_mk (label : Label) (children : List Node) :
    (mk label children).nodes = mk label children :: children.flatMap Node.nodes := by
  rw [nodes, positions, positionsAt, List.map_cons, map_node_positionsAll_eq]

theorem mem_nodes_self (node : Node) : node ∈ node.nodes := by
  rw [← node.eta, nodes_mk]
  exact List.mem_cons_self

theorem mem_nodes_mk_of_child {label : Label} {children : List Node} {child node : Node}
    (hChild : child ∈ children) (h : node ∈ child.nodes) : node ∈ (mk label children).nodes := by
  rw [nodes_mk]
  exact List.mem_cons_of_mem _ (List.mem_flatMap.mpr ⟨child, hChild, h⟩)

/-- The nodes of a tree within a tree are nodes of the whole. -/
theorem mem_nodes_trans {inner : Node} : ∀ {root outer : Node}, outer ∈ root.nodes →
    inner ∈ outer.nodes → inner ∈ root.nodes := by
  intro root
  induction root using Node.induction with
  | node label children ih =>
    intro outer hOuter hInner
    rw [nodes_mk] at hOuter
    rcases List.mem_cons.mp hOuter with rfl | hBelow
    · exact hInner
    · obtain ⟨child, hChild, hMem⟩ := List.mem_flatMap.mp hBelow
      exact mem_nodes_mk_of_child hChild (ih child hChild hMem hInner)

/-- The nodes at the positions below are nodes of the tree. -/
theorem node_mem_nodes_of_mem_below {above cursor : Cursor} (h : cursor ∈ above.below) :
    cursor.node ∈ above.node.nodes := by
  rw [nodes, positions, map_node_positionsAt [] above.path, positionsAt_eq_below, List.map_cons]
  exact List.mem_cons_of_mem _ (List.mem_map_of_mem h)

end Node

namespace Cursor

/-! ### Ancestors -/

/-- The ancestors of a node are the nodes above its position. -/
theorem exists_above_of_mem_ancestors {cursor : Cursor} {node : Node}
    (h : node ∈ cursor.ancestors) : ∃ above, Above above cursor ∧ above.node = node := by
  obtain ⟨here, path⟩ := cursor
  induction path generalizing here with
  | nil => cases h
  | cons crumb up ih =>
    rcases List.mem_cons.mp h with rfl | hFurther
    · exact ⟨⟨crumb.parent, up⟩, .parent rfl, rfl⟩
    · obtain ⟨above, hAbove, hNode⟩ := ih crumb.parent hFurther
      exact ⟨above, .further rfl hAbove, hNode⟩

/-- An ancestor of a node of a tree is a node of the tree, and has the other among those below. -/
theorem mem_nodes_of_mem_ancestors {root node : Node} {cursor : Cursor}
    (hMem : cursor ∈ root.positions) (h : node ∈ cursor.ancestors) :
    node ∈ root.nodes ∧ cursor.node ∈ node.nodes ∧ node.children ≠ [] := by
  obtain ⟨above, hAbove, rfl⟩ := exists_above_of_mem_ancestors h
  obtain ⟨hIn, hBelow⟩ := mem_below_of_above hAbove hMem
  refine ⟨List.mem_map_of_mem hIn, Node.node_mem_nodes_of_mem_below hBelow, ?_⟩
  intro hLeaf
  rw [below, hLeaf] at hBelow
  cases hBelow

/-! ### Hiding more -/

variable {hides more : Node → Bool}

/-- A position with what is seen below it, if its node is one that hides more. -/
def withHidden (hides more : Node → Bool) (cursor : Cursor) : List Cursor :=
  cursor :: if more cursor.node then seen hides cursor.below else []

/-- Nothing is seen below a node that hides it. -/
theorem seen_below_of_hides {cursor : Cursor} (h : hides cursor.node = true) :
    seen hides cursor.below = [] := by
  refine List.filter_eq_nil_iff.mpr fun stop hMem => ?_
  have hAny : stop.ancestors.any hides = true :=
    List.any_eq_true.mpr ⟨_, Node.parent_mem_ancestors hMem, h⟩
  rw [hAny]
  exact Bool.false_ne_true

theorem any_hides_of_any_more (hMore : ∀ node, hides node = true → more node = true)
    {nodes : List Node} (h : nodes.any more = false) : nodes.any hides = false := by
  rw [List.any_eq_false] at h ⊢
  exact fun node hMem hHides => h node hMem (hMore node hHides)

mutual

theorem seen_positionsAt_refine (hMore : ∀ node, hides node = true → more node = true)
    (path : List Crumb) : ∀ node : Node, (path.map Crumb.parent).any more = false →
      seen hides (node.positionsAt path) =
        (seen more (node.positionsAt path)).flatMap (withHidden hides more)
  | .mk label children => by
    intro hNone
    let cursor : Cursor := ⟨.mk label children, path⟩
    have hSeen : cursor.ancestors.any more = false := hNone
    rw [Node.positionsAt_eq_below, seen_cons (any_hides_of_any_more hMore hSeen), seen_cons hSeen,
      List.flatMap_cons, withHidden]
    cases hIs : more (.mk label children) with
    | true =>
      have hNil : seen more cursor.below = [] := seen_below_of_hides hIs
      rw [hNil, if_pos rfl, List.flatMap_nil, List.append_nil]
    | false =>
      rw [if_neg Bool.false_ne_true, List.singleton_append]
      refine congrArg _ (seen_positionsAll_refine hMore path _ children ?_)
      rw [List.any_cons, hIs, hNone]
      rfl

theorem seen_positionsAll_refine (hMore : ∀ node, hides node = true → more node = true)
    (path : List Crumb) (parent : Node) :
    ∀ nodes : List Node, (parent :: path.map Crumb.parent).any more = false →
      seen hides (Node.positionsAll path parent nodes) =
        (seen more (Node.positionsAll path parent nodes)).flatMap (withHidden hides more)
  | [] => fun _ => rfl
  | child :: right => by
    intro hNone
    rw [Node.positionsAll, seen_append, seen_append, List.flatMap_append,
      seen_positionsAt_refine hMore (⟨parent, right⟩ :: path) child hNone,
      seen_positionsAll_refine hMore path parent right hNone]

end

/-- **What is seen when less is hidden** is what is seen when more is, each node that hides more
being followed by what is seen below it. -/
theorem seen_positions_refine (hMore : ∀ node, hides node = true → more node = true)
    (root : Node) :
    seen hides root.positions = (seen more root.positions).flatMap (withHidden hides more) :=
  seen_positionsAt_refine hMore [] root rfl

mutual

theorem find?_seen_positionsAt (path : List Crumb) :
    ∀ node : Node, (path.map Crumb.parent).any hides = false →
      (seen hides (node.positionsAt path)).find? (hides ·.node) =
        (node.positionsAt path).find? (hides ·.node)
  | .mk label children => by
    intro hNone
    let cursor : Cursor := ⟨.mk label children, path⟩
    have hSeen : cursor.ancestors.any hides = false := hNone
    rw [Node.positionsAt, seen_cons hSeen, List.find?_cons, List.find?_cons]
    cases hIs : hides (.mk label children) with
    | true => rfl
    | false =>
      refine find?_seen_positionsAll path _ children ?_
      rw [List.any_cons, hIs, hNone]
      rfl

theorem find?_seen_positionsAll (path : List Crumb) (parent : Node) :
    ∀ nodes : List Node, (parent :: path.map Crumb.parent).any hides = false →
      (seen hides (Node.positionsAll path parent nodes)).find? (hides ·.node) =
        (Node.positionsAll path parent nodes).find? (hides ·.node)
  | [] => fun _ => rfl
  | child :: right => by
    intro hNone
    rw [Node.positionsAll, seen_append, List.find?_append, List.find?_append,
      find?_seen_positionsAt (⟨parent, right⟩ :: path) child hNone,
      find?_seen_positionsAll path parent right hNone]

end

/-- **The first node that hides something** is not hidden itself. -/
theorem find?_seen_positions (hides : Node → Bool) (root : Node) :
    (seen hides root.positions).find? (hides ·.node) = root.positions.find? (hides ·.node) :=
  find?_seen_positionsAt [] root rfl

end Cursor

end ScriptAnalysis.Syntax
