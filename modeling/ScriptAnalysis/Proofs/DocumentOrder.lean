import ScriptAnalysis.Proofs.Below
import ScriptAnalysis.Proofs.Places

/-!
# Trees in the order of the text

A tree is in the order of a text when its nodes lie in the text, children lie within their parent
and siblings side by side.

* `InOrder.range_of_mem`: then every node lies within the root.
* `InOrder.positions_pairwise`: of two positions the first is above the second or ends before it.
* `InOrder.inside_or_apart`: of two nodes one is in the tree of the other, or they are apart.
-/

namespace ScriptAnalysis.Syntax

open Cursor (Above)

namespace Node

/-- The children of a node lie within it, side by side. -/
structure Nests (node : Node) : Prop where
  inside : ∀ child ∈ node.children, node.start ≤ child.start ∧ child.stop ≤ node.stop
  apart : node.children.Pairwise fun left right => left.stop ≤ right.start

instance (node : Node) : Decidable node.Nests :=
  decidable_of_iff
    ((∀ child ∈ node.children, node.start ≤ child.start ∧ child.stop ≤ node.stop) ∧
      node.children.Pairwise fun left right => left.stop ≤ right.start)
    ⟨fun ⟨hInside, hApart⟩ => ⟨hInside, hApart⟩, fun ⟨hInside, hApart⟩ => ⟨hInside, hApart⟩⟩

/-- A tree is in the order of a text. -/
structure InOrder (text : List Char) (root : Node) : Prop where
  fits : ∀ node ∈ root.nodes, node.Fits text
  nests : ∀ node ∈ root.nodes, node.Nests

instance (text : List Char) (root : Node) : Decidable (root.InOrder text) :=
  decidable_of_iff
    ((∀ node ∈ root.nodes, node.Fits text) ∧ ∀ node ∈ root.nodes, node.Nests)
    ⟨fun ⟨hFits, hNests⟩ => ⟨hFits, hNests⟩, fun ⟨hFits, hNests⟩ => ⟨hFits, hNests⟩⟩

variable {text : List Char}

/-- A tree within a tree in order is in order. -/
theorem InOrder.of_mem {root node : Node} (h : root.InOrder text) (hMem : node ∈ root.nodes) :
    node.InOrder text :=
  ⟨fun inner hInner => h.fits inner (mem_nodes_trans hMem hInner),
    fun inner hInner => h.nests inner (mem_nodes_trans hMem hInner)⟩

theorem InOrder.of_child {label : Label} {children : List Node} {child : Node}
    (h : (Node.mk label children).InOrder text) (hChild : child ∈ children) : child.InOrder text :=
  h.of_mem (mem_nodes_mk_of_child hChild child.mem_nodes_self)

/-- **Every node** of a tree in order lies within the root. -/
theorem InOrder.range_of_mem {node : Node} : ∀ {root : Node}, root.InOrder text →
    node ∈ root.nodes → root.start ≤ node.start ∧ node.stop ≤ root.stop := by
  intro root
  induction root using Node.induction with
  | node label children ih =>
    intro h hMem
    have hRoot := (h.nests _ (mem_nodes_self _)).inside
    rw [nodes_mk] at hMem
    rcases List.mem_cons.mp hMem with rfl | hBelow
    · exact ⟨Nat.le_refl _, Nat.le_refl _⟩
    · obtain ⟨child, hChild, hIn⟩ := List.mem_flatMap.mp hBelow
      obtain ⟨hStart, hStop⟩ := ih child hChild (h.of_child hChild) hIn
      obtain ⟨hChildStart, hChildStop⟩ := hRoot child hChild
      exact ⟨hChildStart.trans hStart, hStop.trans hChildStop⟩

theorem node_mem_nodes_of_mem_positionsAt {path : List Crumb} {root : Node} {cursor : Cursor}
    (h : cursor ∈ root.positionsAt path) : cursor.node ∈ root.nodes := by
  rw [nodes, positions, map_node_positionsAt [] path]
  exact List.mem_map_of_mem h

/-- One position comes before another: it is above it or ends before it. -/
def Precedes (first second : Cursor) : Prop :=
  Above first second ∨ first.node.stop ≤ second.node.start

/-- Positions in different children of a node are apart. -/
theorem precedes_of_siblings {path : List Crumb} {parent child : Node} {right : List Node}
    (hOrder : ∀ other ∈ child :: right, other.InOrder text)
    (hApart : (child :: right).Pairwise fun left right => left.stop ≤ right.start)
    {first second : Cursor} (hFirst : first ∈ child.positionsAt (⟨parent, right⟩ :: path))
    (hSecond : second ∈ positionsAll path parent right) : Precedes first second := by
  obtain ⟨other, hOther, beside, hMem, -⟩ := mem_positionsAll hSecond
  have hLeft := (hOrder child List.mem_cons_self).range_of_mem
    (node_mem_nodes_of_mem_positionsAt hFirst)
  have hRight := (hOrder other (List.mem_cons_of_mem _ hOther)).range_of_mem
    (node_mem_nodes_of_mem_positionsAt hMem)
  have hBetween : child.stop ≤ other.start := List.rel_of_pairwise_cons hApart hOther
  right
  omega

mutual

theorem positionsAt_pairwise (path : List Crumb) : ∀ node : Node, node.InOrder text →
    (node.positionsAt path).Pairwise Precedes
  | .mk label children => by
    intro h
    rw [positionsAt_eq_below, List.pairwise_cons]
    refine ⟨fun other hOther => Or.inl (Cursor.above_of_mem_below hOther), ?_⟩
    exact positionsAll_pairwise path _ children (fun child => h.of_child)
      (h.nests _ (mem_nodes_self _)).apart

theorem positionsAll_pairwise (path : List Crumb) (parent : Node) : ∀ nodes : List Node,
    (∀ node ∈ nodes, node.InOrder text) →
    (nodes.Pairwise fun left right => left.stop ≤ right.start) →
    (positionsAll path parent nodes).Pairwise Precedes
  | [] => fun _ _ => List.Pairwise.nil
  | child :: right => by
    intro hOrder hApart
    rw [positionsAll, List.pairwise_append]
    refine ⟨?_, ?_, fun first hFirst second hSecond => ?_⟩
    · exact positionsAt_pairwise _ child (hOrder child List.mem_cons_self)
    · exact positionsAll_pairwise path parent right
        (fun other hOther => hOrder other (List.mem_cons_of_mem _ hOther)) hApart.of_cons
    · exact precedes_of_siblings hOrder hApart hFirst hSecond

end

/-- **Of two positions** of a tree in order the first is above the second or ends before it. -/
theorem InOrder.positions_pairwise {root : Node} (h : root.InOrder text) :
    root.positions.Pairwise Precedes := positionsAt_pairwise [] root h

/-- **Of two nodes** of a tree in order one is in the tree of the other, or they are apart. -/
theorem InOrder.inside_or_apart {root first second : Node} (h : root.InOrder text)
    (hFirst : first ∈ root.nodes) (hSecond : second ∈ root.nodes) :
    second ∈ first.nodes ∨ first ∈ second.nodes ∨
      first.stop ≤ second.start ∨ second.stop ≤ first.start := by
  obtain ⟨left, hLeft, rfl⟩ := List.mem_map.mp hFirst
  obtain ⟨right, hRight, rfl⟩ := List.mem_map.mp hSecond
  let Related (one other : Cursor) : Prop :=
    one = other ∨ Precedes one other ∨ Precedes other one
  have hForth : root.positions.Pairwise Related :=
    h.positions_pairwise.imp fun hPrecedes => Or.inr (Or.inl hPrecedes)
  have hBack : root.positions.Pairwise (flip Related) :=
    h.positions_pairwise.imp fun hPrecedes => Or.inr (Or.inr hPrecedes)
  have hSelf : ∀ one ∈ root.positions, Related one one := fun _ _ => Or.inl rfl
  have hRelated := List.Pairwise.forall_of_forall_of_flip hSelf hForth hBack hLeft hRight
  have hWithin : ∀ {above cursor : Cursor}, cursor ∈ root.positions → Above above cursor →
      cursor.node ∈ above.node.nodes := fun hMem hAbove =>
    node_mem_nodes_of_mem_below (Cursor.mem_below_of_above hAbove hMem).2
  rcases hRelated with rfl | (hAbove | hApart) | (hAbove | hApart)
  · exact .inl (mem_nodes_self _)
  · exact .inl (hWithin hRight hAbove)
  · exact .inr (.inr (.inl hApart))
  · exact .inr (.inl (hWithin hLeft hAbove))
  · exact .inr (.inr (.inr hApart))

end Node

end ScriptAnalysis.Syntax
