import ScriptAnalysis.Proofs.Positions

/-!
# A tour of a tree

A tour enters each position of a tree, tours what is below it and leaves it again.  It is what a
traversal that goes on to every child does, with the positions kept.

* `entered_tourAt`: the positions entered are those of the tree, in the order of the text.
* `left_tourAt`: the positions left are the same ones in another order.
* `tour_induction`: what a tour keeps, entering a position and leaving it, it keeps throughout.
* `nodup_positions`: no position is listed twice.
* `countUp_le_nesting`, `exists_countUp_eq_nesting`: the nesting of a tree is the greatest number of
  nodes with a property from one of its positions up.
* `visit_eq_tour`: a traversal reports what it reports at the moments of the tour.
-/

namespace ScriptAnalysis.Syntax

/-- A moment of a tour: a position is entered or left. -/
inductive Moment where
  | entering (cursor : Cursor)
  | leaving (cursor : Cursor)

namespace Moment

def entered? : Moment → Option Cursor
  | .entering cursor => some cursor
  | .leaving _ => none

def left? : Moment → Option Cursor
  | .entering _ => none
  | .leaving cursor => some cursor

end Moment

namespace Cursor

/-- The positions above the end of a path, the nearest first. -/
def wayUpOf : List Crumb → List Cursor
  | [] => []
  | crumb :: up => ⟨crumb.parent, up⟩ :: wayUpOf up

/-- The positions above the cursor, the nearest first. -/
def wayUp (cursor : Cursor) : List Cursor := wayUpOf cursor.path

theorem map_node_wayUpOf (path : List Crumb) :
    (wayUpOf path).map Cursor.node = path.map Crumb.parent := by
  induction path with
  | nil => rfl
  | cons crumb up ih => rw [wayUpOf, List.map_cons, ih, List.map_cons]

theorem map_node_wayUp (cursor : Cursor) : cursor.wayUp.map Cursor.node = cursor.ancestors :=
  map_node_wayUpOf cursor.path

end Cursor

namespace Node

mutual

/-- The tour of a tree at the end of a path. -/
def tourAt (path : List Crumb) : Node → List Moment
  | .mk label children =>
    .entering ⟨.mk label children, path⟩ ::
      (tourAll path (.mk label children) children ++ [.leaving ⟨.mk label children, path⟩])

/-- The tours of some last children of a node at the end of a path. -/
def tourAll (path : List Crumb) (parent : Node) : List Node → List Moment
  | [] => []
  | child :: right => tourAt (⟨parent, right⟩ :: path) child ++ tourAll path parent right

end

/-- The tour of a tree. -/
def tour (root : Node) : List Moment := root.tourAt []

mutual

/-- **The positions entered** are those of the tree, in the order of the text. -/
theorem entered_tourAt (path : List Crumb) :
    ∀ node : Node, (node.tourAt path).filterMap Moment.entered? = node.positionsAt path
  | .mk label children => by
    have hBelow := entered_tourAll path (.mk label children) children
    rw [tourAt, positionsAt, List.filterMap_cons, List.filterMap_append, hBelow]
    exact congrArg _ (List.append_nil _)

theorem entered_tourAll (path : List Crumb) (parent : Node) :
    ∀ nodes : List Node,
      (tourAll path parent nodes).filterMap Moment.entered? = positionsAll path parent nodes
  | [] => rfl
  | child :: right => by
    rw [tourAll, positionsAll, List.filterMap_append, entered_tourAt _ child,
      entered_tourAll path parent right]

end

mutual

/-- **The positions left** are those of the tree. -/
theorem left_tourAt (path : List Crumb) :
    ∀ node : Node, ((node.tourAt path).filterMap Moment.left?).Perm (node.positionsAt path)
  | .mk label children => by
    have hBelow := left_tourAll path (.mk label children) children
    rw [tourAt, positionsAt, List.filterMap_cons_none rfl, List.filterMap_append]
    exact (List.perm_append_singleton _ _).trans (hBelow.cons _)

theorem left_tourAll (path : List Crumb) (parent : Node) :
    ∀ nodes : List Node,
      ((tourAll path parent nodes).filterMap Moment.left?).Perm (positionsAll path parent nodes)
  | [] => .refl _
  | child :: right => by
    rw [tourAll, positionsAll, List.filterMap_append]
    exact (left_tourAt _ child).append (left_tourAll path parent right)

end

/-! ### Induction on a tour -/

/-- A property of the moments that are left of a tour, given the positions that have been entered and
not left, which is kept when a moment is put in front of them. -/
structure KeptOnTours (Holds : List Cursor → List Moment → Prop) : Prop where
  entering : ∀ cursor rest, Holds (cursor :: cursor.wayUp) rest →
    Holds cursor.wayUp (.entering cursor :: rest)
  leaving : ∀ cursor rest, Holds cursor.wayUp rest →
    Holds (cursor :: cursor.wayUp) (.leaving cursor :: rest)

variable {Holds : List Cursor → List Moment → Prop}

mutual

theorem holds_tourAt (hKept : KeptOnTours Holds) (path : List Crumb) :
    ∀ (node : Node) (rest : List Moment), Holds (Cursor.wayUpOf path) rest →
      Holds (Cursor.wayUpOf path) (node.tourAt path ++ rest)
  | .mk label children => by
    intro rest h
    have hLeaving := hKept.leaving ⟨.mk label children, path⟩ rest h
    have hBelow := holds_tourAll hKept path (.mk label children) children _ hLeaving
    rw [tourAt, List.cons_append, List.append_assoc]
    exact hKept.entering ⟨.mk label children, path⟩ _ hBelow

theorem holds_tourAll (hKept : KeptOnTours Holds) (path : List Crumb) (parent : Node) :
    ∀ (nodes : List Node) (rest : List Moment),
      Holds (⟨parent, path⟩ :: Cursor.wayUpOf path) rest →
      Holds (⟨parent, path⟩ :: Cursor.wayUpOf path) (tourAll path parent nodes ++ rest)
  | [] => fun _ h => h
  | child :: right => by
    intro rest h
    have hRight := holds_tourAll hKept path parent right rest h
    rw [tourAll, List.append_assoc]
    exact holds_tourAt hKept (⟨parent, right⟩ :: path) child _ hRight

end

/-- **Induction on a tour**, from its end. -/
theorem tour_induction (hKept : KeptOnTours Holds) (done : Holds [] []) (root : Node) :
    Holds [] root.tour := by
  have h := holds_tourAt hKept [] root [] done
  rw [List.append_nil] at h
  exact h

/-- No position of a tree is listed twice. -/
theorem nodup_positions (root : Node) : root.positions.Nodup := by
  -- A traversal that goes everywhere enters just the positions, and none of them twice.
  let everywhere : Visitor Unit := ⟨fun _ _ => [], fun _ _ => true, fun _ _ => []⟩
  have hStops : everywhere.stops (.atRoot root) = Cursor.seen (fun _ => false) root.positions :=
    Visitor.stops_atRoot (fun _ _ => rfl) root
  have hSeen : Cursor.seen (fun _ => false) root.positions = root.positions := by
    refine List.filter_eq_self.mpr fun cursor _ => ?_
    rw [List.any_eq_false.mpr fun _ _ => Bool.false_ne_true]
    rfl
  rw [← hSeen, ← hStops]
  exact Visitor.nodup_stops _

/-! ### Nesting -/

section Nesting

variable (p : Node → Bool)

mutual

/-- The greatest number of nodes with a property on a way down a tree. -/
def nesting : Node → Nat
  | .mk label children => (if p (.mk label children) then 1 else 0) + nestingAll children

/-- The greatest number of nodes with a property on a way down one of some trees. -/
def nestingAll : List Node → Nat
  | [] => 0
  | child :: right => max (nesting child) (nestingAll right)

end

/-- How many nodes with a property there are from a position up. -/
def countUp (cursor : Cursor) : Nat := (cursor.node :: cursor.ancestors).countP p

theorem countUp_eq (node : Node) (path : List Crumb) :
    countUp p ⟨node, path⟩ = (path.map Crumb.parent).countP p + if p node then 1 else 0 :=
  List.countP_cons

mutual

/-- From no position are there more on the way up than the nesting. -/
theorem countUp_le_nesting (path : List Crumb) : ∀ (node : Node), ∀ cursor ∈ node.positionsAt path,
    countUp p cursor ≤ (path.map Crumb.parent).countP p + nesting p node
  | .mk label children => by
    intro cursor h
    have hBelow := countUp_le_nestingAll path (.mk label children) children cursor
    rw [positionsAt] at h
    rw [nesting]
    rcases List.mem_cons.mp h with rfl | hMem
    · rw [countUp_eq]
      omega
    · have hLe := hBelow hMem
      rw [countUp_eq p (.mk label children) path] at hLe
      omega

theorem countUp_le_nestingAll (path : List Crumb) (parent : Node) :
    ∀ (nodes : List Node), ∀ cursor ∈ positionsAll path parent nodes,
      countUp p cursor ≤ countUp p ⟨parent, path⟩ + nestingAll p nodes
  | [] => by
    intro cursor h
    cases h
  | child :: right => by
    intro cursor h
    rw [positionsAll] at h
    rw [nestingAll]
    rcases List.mem_append.mp h with hHere | hRight
    · have hLe := countUp_le_nesting (⟨parent, right⟩ :: path) child cursor hHere
      have hMax := Nat.le_max_left (nesting p child) (nestingAll p right)
      have hUp : ((⟨parent, right⟩ :: path : List Crumb).map Crumb.parent).countP p =
          countUp p ⟨parent, path⟩ := rfl
      omega
    · have hLe := countUp_le_nestingAll path parent right cursor hRight
      have hMax := Nat.le_max_right (nesting p child) (nestingAll p right)
      omega

end

mutual

/-- From some position there are as many on the way up as the nesting. -/
theorem exists_countUp_eq_nesting (path : List Crumb) : ∀ (node : Node),
    ∃ cursor ∈ node.positionsAt path,
      countUp p cursor = (path.map Crumb.parent).countP p + nesting p node
  | .mk label children => by
    have hHere := countUp_eq p (.mk label children) path
    rw [positionsAt, nesting]
    rcases exists_countUp_eq_nestingAll path (.mk label children) children with
      hNone | ⟨cursor, hMem, hEq⟩
    · exact ⟨_, List.mem_cons_self, by omega⟩
    · exact ⟨cursor, List.mem_cons_of_mem _ hMem, by omega⟩

theorem exists_countUp_eq_nestingAll (path : List Crumb) (parent : Node) : ∀ (nodes : List Node),
    nestingAll p nodes = 0 ∨ ∃ cursor ∈ positionsAll path parent nodes,
      countUp p cursor = countUp p ⟨parent, path⟩ + nestingAll p nodes
  | [] => Or.inl rfl
  | child :: right => by
    obtain ⟨first, hFirst, hHere⟩ :=
      exists_countUp_eq_nesting (⟨parent, right⟩ :: path) child
    have hUp : ((⟨parent, right⟩ :: path : List Crumb).map Crumb.parent).countP p =
        countUp p ⟨parent, path⟩ := rfl
    rw [positionsAll, nestingAll]
    by_cases hMax : nestingAll p right ≤ nesting p child
    · refine Or.inr ⟨first, List.mem_append_left _ hFirst, ?_⟩
      rw [Nat.max_eq_left hMax]
      omega
    · rcases exists_countUp_eq_nestingAll path parent right with hNone | ⟨cursor, hMem, hEq⟩
      · omega
      · refine Or.inr ⟨cursor, List.mem_append_right _ hMem, ?_⟩
        rw [Nat.max_eq_right (by omega)]
        exact hEq

end

end Nesting

end Node

namespace Visitor

variable {ε : Type} (visitor : Visitor ε)

/-- What a visitor reports at a moment of a tour. -/
def reportAt : Moment → List ε
  | .entering cursor => visitor.enter cursor.ancestors cursor.node
  | .leaving cursor => visitor.leave cursor.ancestors cursor.node

variable {visitor}

mutual

/-- **A traversal** that goes on to every child reports what it reports at the moments of a tour. -/
theorem visit_eq_tour (hDescends : ∀ ancestors node, visitor.descends ancestors node = true)
    (path : List Crumb) : ∀ node : Node,
    visitor.visit (path.map Crumb.parent) node = (node.tourAt path).flatMap visitor.reportAt
  | .mk label children => by
    have hBelow := visitAll_eq_tour hDescends path (.mk label children) children
    rw [visit, if_pos (hDescends _ _), Node.tourAt, List.flatMap_cons, List.flatMap_append,
      ← hBelow]
    simp [reportAt, Cursor.ancestors]

theorem visitAll_eq_tour (hDescends : ∀ ancestors node, visitor.descends ancestors node = true)
    (path : List Crumb) (parent : Node) : ∀ nodes : List Node,
    visitor.visitAll (parent :: path.map Crumb.parent) nodes =
      (Node.tourAll path parent nodes).flatMap visitor.reportAt
  | [] => by rw [visitAll, Node.tourAll, List.flatMap_nil]
  | child :: right => by
    rw [visitAll, Node.tourAll, List.flatMap_append, ← visit_eq_tour hDescends _ child,
      ← visitAll_eq_tour hDescends path parent right]
    rfl

end

end Visitor

end ScriptAnalysis.Syntax
