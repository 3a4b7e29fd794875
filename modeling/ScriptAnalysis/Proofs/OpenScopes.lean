import ScriptAnalysis.Proofs.Brackets

/-!
# The scopes that are open

What a walk has opened and not closed yet is a stack of scopes.  It is settled by where the walk is:
whatever is told of a position is told while just the scopes of the functions from there up are open.

* `length_foldl_openedAfter`: as many are open as have been opened and not closed.
* `openScopes_eq`: which scopes are open when something is told of a position.
* `exists_scopesUp_eq`: at every moment of a walk they are those on the way up from some position.
* `scopes_walk`: the scopes that a walk opens are those of the functions, in the order of the text.
-/

namespace ScriptAnalysis.Walk

open Syntax (Crumb Cursor Moment Node)

/-! ### The stack -/

/-- The open scopes after one more event, the innermost first. -/
def openedAfter (opened : List Scope) : Event → List Scope
  | .scopeOpened scope => scope :: opened
  | .scopeClosed => opened.tail
  | .entered _ => opened
  | .left _ => opened

/-- The scopes that are open after some events, the innermost first. -/
def openScopes (events : List Event) : List Scope := events.foldl openedAfter []

/-- **As many scopes are open** as have been opened and not closed, if none is ever closed that is
not open. -/
theorem length_foldl_openedAfter {opened : List Scope} {events : List Event}
    (h : ∀ n, closings (events.take n) ≤ (scopes (events.take n)).length + opened.length) :
    (events.foldl openedAfter opened).length + closings events =
      (scopes events).length + opened.length := by
  induction events generalizing opened with
  | nil => simp [closings, scopes]
  | cons event rest ih =>
    rw [List.foldl_cons]
    cases event with
    | scopeOpened scope =>
      have hOpened : (scopes (.scopeOpened scope :: rest)).length = (scopes rest).length + 1 := rfl
      have hClosed : closings (.scopeOpened scope :: rest) = closings rest := rfl
      have hLength : (openedAfter opened (.scopeOpened scope)).length = opened.length + 1 := rfl
      rw [hOpened, hClosed, ih, hLength]
      · omega
      · intro n
        have hTake : closings (rest.take n) ≤
            (scopes (rest.take n)).length + 1 + opened.length := h (n + 1)
        omega
    | entered node => exact ih fun n => h (n + 1)
    | left node => exact ih fun n => h (n + 1)
    | scopeClosed =>
      have hOpened : scopes (.scopeClosed :: rest) = scopes rest := rfl
      have hClosed : ∀ later, closings (.scopeClosed :: later) = closings later + 1 :=
        fun _ => List.countP_cons_of_pos rfl
      have hLength : (openedAfter opened .scopeClosed).length = opened.length - 1 :=
        List.length_tail
      have hFirst : closings [.scopeClosed] ≤ 0 + opened.length := h 1
      rw [hClosed] at hFirst
      have hRest : ∀ n, closings (rest.take n) ≤
          (scopes (rest.take n)).length + (openedAfter opened .scopeClosed).length := by
        intro n
        have hTake : closings (.scopeClosed :: rest.take n) ≤
            (scopes (rest.take n)).length + opened.length := h (n + 1)
        rw [hClosed] at hTake
        omega
      have hSum := ih hRest
      rw [hOpened, hClosed]
      omega

/-! ### The scopes on the way up -/

/-- The scopes of the functions among some nodes, each of them the parent of the one before. -/
def scopesUp (text : List Char) : List Node → List Scope
  | [] => []
  | node :: above =>
    (if Scope.opensAt node then [.ofNode text above node] else []) ++ scopesUp text above

/-- As many scopes as functions. -/
theorem length_scopesUp (text : List Char) (nodes : List Node) :
    (scopesUp text nodes).length = nodes.countP Scope.opensAt := by
  induction nodes with
  | nil => rfl
  | cons node above ih =>
    rw [scopesUp, List.length_append, ih, List.countP_cons]
    cases Scope.opensAt node <;> simp [Nat.add_comm]

/-- A scope on the way up is that of one of the nodes. -/
theorem exists_node_of_mem_scopesUp {text : List Char} {scope : Scope} {nodes : List Node}
    (h : scope ∈ scopesUp text nodes) : ∃ node ∈ nodes, ∃ above, scope = .ofNode text above node := by
  induction nodes with
  | nil => cases h
  | cons node above ih =>
    rw [scopesUp] at h
    rcases List.mem_append.mp h with hHere | hAbove
    · cases hOpens : Scope.opensAt node with
      | false => simp [hOpens] at hHere
      | true =>
        rw [hOpens, if_pos rfl] at hHere
        exact ⟨node, List.mem_cons_self, above, List.mem_singleton.mp hHere⟩
    · obtain ⟨found, hFound, rest, hScope⟩ := ih hAbove
      exact ⟨found, List.mem_cons_of_mem _ hFound, rest, hScope⟩

/-- How nodes stand to those above them, their scopes do. -/
theorem pairwise_scopesUp {text : List Char} {related : Node → Node → Prop}
    {nests : Scope → Scope → Prop}
    (hNests : ∀ inner outer above further, related inner outer →
      nests (.ofNode text above inner) (.ofNode text further outer))
    {nodes : List Node} (h : nodes.Pairwise related) : (scopesUp text nodes).Pairwise nests := by
  induction nodes with
  | nil => exact List.Pairwise.nil
  | cons node above ih =>
    obtain ⟨hHere, hAbove⟩ := List.pairwise_cons.mp h
    rw [scopesUp, List.pairwise_append]
    refine ⟨?_, ih hAbove, fun scope hScope outer hOuter => ?_⟩
    · cases Scope.opensAt node <;> simp
    · obtain ⟨found, hFound, further, rfl⟩ := exists_node_of_mem_scopesUp hOuter
      cases hOpens : Scope.opensAt node with
      | false => simp [hOpens] at hScope
      | true =>
        rw [hOpens, if_pos rfl] at hScope
        rw [List.mem_singleton.mp hScope]
        exact hNests node found above further (hHere found hFound)

/-! ### Where the walk is -/

/-- The scopes that are open when something is told of a position: those of the functions from there
up, or of those above it when its own scope is about to be opened. -/
def openAt (text : List Char) : Cursor × Event → List Scope
  | (cursor, .scopeOpened _) => scopesUp text cursor.ancestors
  | (cursor, _) => scopesUp text (cursor.node :: cursor.ancestors)

/-- Events each of which is told while the scopes are open that should be, none of them in the end. -/
inductive Tracks (text : List Char) : List Scope → List (Cursor × Event) → Prop
  | done : Tracks text [] []
  | told {entry : Cursor × Event} {rest : List (Cursor × Event)}
      (later : Tracks text (openedAfter (openAt text entry) entry.2) rest) :
      Tracks text (openAt text entry) (entry :: rest)

namespace Tracks

variable {text : List Char} {opened : List Scope} {entries : List (Cursor × Event)}

/-- In front of each event what should be open is open. -/
theorem foldl_before (h : Tracks text opened entries) :
    ∀ {before after : List (Cursor × Event)} {entry : Cursor × Event},
      entries = before ++ entry :: after →
      (before.map Prod.snd).foldl openedAfter opened = openAt text entry := by
  induction h with
  | done =>
    intro before after entry hEntries
    simp at hEntries
  | @told first rest later ih =>
    intro before after entry hEntries
    cases before with
    | nil =>
      obtain ⟨rfl, -⟩ := List.cons.inj hEntries
      rfl
    | cons other before =>
      obtain ⟨rfl, hRest⟩ := List.cons.inj hEntries
      exact ih hRest

theorem foldl_all (h : Tracks text opened entries) :
    (entries.map Prod.snd).foldl openedAfter opened = [] := by
  induction h with
  | done => rfl
  | told later ih => exact ih

end Tracks

namespace Walker

variable (walker : Walker) (text : List Char)

theorem tracks_entering (cursor : Cursor) {rest : List (Cursor × Event)}
    (h : Tracks text (scopesUp text (cursor.node :: cursor.ancestors)) rest) :
    Tracks text (scopesUp text cursor.ancestors)
      (walker.told text (.entering cursor) ++ rest) := by
  have hEntered : Tracks text (scopesUp text (cursor.node :: cursor.ancestors))
      ((if walker.tellsOf cursor.node then [(cursor, .entered cursor.node)] else []) ++ rest) := by
    cases walker.tellsOf cursor.node with
    | false => exact h
    | true => exact @Tracks.told text (cursor, .entered cursor.node) rest h
  rw [told_entering, List.append_assoc]
  rw [scopesUp] at hEntered
  cases hOpens : Scope.opensAt cursor.node with
  | false =>
    rw [hOpens] at hEntered
    exact hEntered
  | true =>
    rw [hOpens] at hEntered
    exact @Tracks.told text
      (cursor, .scopeOpened (.ofNode text cursor.ancestors cursor.node)) _ hEntered

theorem tracks_leaving (cursor : Cursor) {rest : List (Cursor × Event)}
    (h : Tracks text (scopesUp text cursor.ancestors) rest) :
    Tracks text (scopesUp text (cursor.node :: cursor.ancestors))
      (walker.told text (.leaving cursor) ++ rest) := by
  have hClosed : Tracks text (scopesUp text (cursor.node :: cursor.ancestors))
      ((if Scope.opensAt cursor.node then [(cursor, .scopeClosed)] else []) ++ rest) := by
    cases hOpens : Scope.opensAt cursor.node with
    | false =>
      rw [scopesUp, hOpens]
      exact h
    | true =>
      refine @Tracks.told text (cursor, .scopeClosed) rest ?_
      have hUp : openAt text (cursor, .scopeClosed) =
          .ofNode text cursor.ancestors cursor.node :: scopesUp text cursor.ancestors := by
        show scopesUp text (cursor.node :: cursor.ancestors) = _
        rw [scopesUp, hOpens]
        rfl
      rw [hUp]
      exact h
  rw [told_leaving, List.append_assoc]
  cases walker.tellsOf cursor.node with
  | false => exact hClosed
  | true => exact @Tracks.told text (cursor, .left cursor.node) _ hClosed

/-- **An account keeps track** of the scopes that are open. -/
theorem tracks_account (root : Node) : Tracks text [] (walker.account text root) := by
  have hKept : Node.KeptOnTours fun above moments =>
      Tracks text (scopesUp text (above.map Cursor.node))
        (moments.flatMap (walker.told text)) :=
    { entering := fun cursor rest h => by
        rw [List.map_cons, Cursor.map_node_wayUp] at h
        rw [Cursor.map_node_wayUp]
        exact walker.tracks_entering text cursor h
      leaving := fun cursor rest h => by
        rw [Cursor.map_node_wayUp] at h
        rw [List.map_cons, Cursor.map_node_wayUp]
        exact walker.tracks_leaving text cursor h }
  exact Node.tour_induction hKept .done root

/-- **When something is told of a position,** the scopes of the functions from there up are open. -/
theorem openScopes_eq {root : Node} {before after : List (Cursor × Event)} {entry : Cursor × Event}
    (h : walker.account text root = before ++ entry :: after) :
    openScopes (before.map Prod.snd) = openAt text entry :=
  (walker.tracks_account text root).foldl_before h

/-- What is told is told of positions of the tree. -/
theorem mem_positions_of_mem_account {root : Node} {entry : Cursor × Event}
    (h : entry ∈ walker.account text root) : entry.1 ∈ root.positions := by
  obtain ⟨moment, hMoment, hEntry⟩ := List.mem_flatMap.mp h
  cases moment with
  | entering cursor =>
    obtain ⟨event, -, rfl⟩ := List.mem_map.mp hEntry
    rw [Node.positions, ← Node.entered_tourAt]
    exact List.mem_filterMap.mpr ⟨_, hMoment, rfl⟩
  | leaving cursor =>
    obtain ⟨event, -, rfl⟩ := List.mem_map.mp hEntry
    rw [Node.positions, ← (Node.left_tourAt [] root).mem_iff]
    exact List.mem_filterMap.mpr ⟨_, hMoment, rfl⟩

/-- **At every moment of a walk** the open scopes are those on the way up from some position. -/
theorem exists_scopesUp_eq (root : Node) (n : Nat) :
    ∃ cursor ∈ root.positions, ∃ up, up <:+ cursor.node :: cursor.ancestors ∧
      openScopes ((walker.walk text root).take n) = scopesUp text up := by
  rw [← map_account, ← List.map_take]
  by_cases hLess : n < (walker.account text root).length
  · let entry := (walker.account text root)[n]
    have hSplit : walker.account text root =
        (walker.account text root).take n ++ entry :: (walker.account text root).drop (n + 1) := by
      rw [← List.drop_eq_getElem_cons hLess, List.take_append_drop]
    refine ⟨entry.1, walker.mem_positions_of_mem_account text (List.getElem_mem hLess), ?_⟩
    rw [walker.openScopes_eq text hSplit]
    obtain ⟨cursor, event⟩ := entry
    cases event with
    | scopeOpened scope => exact ⟨_, List.suffix_cons _ _, rfl⟩
    | entered node => exact ⟨_, List.suffix_rfl, rfl⟩
    | left node => exact ⟨_, List.suffix_rfl, rfl⟩
    | scopeClosed => exact ⟨_, List.suffix_rfl, rfl⟩
  · have hRoot : (⟨root, []⟩ : Cursor) ∈ root.positions := by
      rw [Node.positions, Node.positionsAt_eq]
      exact List.mem_cons_self
    refine ⟨_, hRoot, [], List.nil_suffix, ?_⟩
    rw [List.take_of_length_le (Nat.not_lt.mp hLess)]
    exact (walker.tracks_account text root).foldl_all

/-- **The scopes that a walk opens** are those of the functions, in the order of the text. -/
theorem scopes_walk (root : Node) :
    scopes (walker.walk text root) =
      (root.positions.filter fun cursor => Scope.opensAt cursor.node).map fun cursor =>
        .ofNode text cursor.ancestors cursor.node := by
  rw [Node.positions, ← Node.entered_tourAt, ← map_account, account, scopes, List.filterMap_map,
    List.filterMap_flatMap, List.filterMap_eq_flatMap_toList, List.filter_flatMap, List.map_flatMap]
  refine List.flatMap_congr fun moment _ => ?_
  cases moment with
  | entering cursor =>
    simp only [told_entering, Moment.entered?, Option.toList_some, List.filter_cons]
    cases Scope.opensAt cursor.node <;> cases walker.tellsOf cursor.node <;> rfl
  | leaving cursor =>
    rw [told_leaving]
    cases Scope.opensAt cursor.node <;> cases walker.tellsOf cursor.node <;> rfl

end Walker

end ScriptAnalysis.Walk
