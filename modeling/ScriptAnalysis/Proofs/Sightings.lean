import ScriptAnalysis.Proofs.DocumentOrder
import ScriptAnalysis.Proofs.NextToken
import ScriptAnalysis.Proofs.Permissiveness

/-!
# What an error is seen at

An error is reported at the start of a node or at a token, and the token is either a node of the
tree or looked for in the text from some offset on.  `sighting?` is the check at one node with this
told apart, and `Sees` says where sightings of a node can be: at its own start, at the start of a
node below it, behind the end of one, or behind the last token of the text.

* `errorAt?_eq_sighting`: an error is the report of a sighting.
* `sees_of_sighting?`: every sighting is one of those.
* `index_mem_range`: so in a tree in order an error is not before its node, and no further than the
  token behind it.
-/

namespace ScriptAnalysis

open Syntax (Cursor Node withinFunction)
open Text (IsPlace Token)

/-- The byte offset of a failure; one that has no place in the code is put at its start. -/
def BuildError.index (error : BuildError) : Nat := error.index?.getD 0

namespace Rules

namespace Offence

/-- The byte offset that an offence is reported at. -/
def index (text : List Char) : Offence → Nat
  | .node token => token.start
  | .tokenAfter offset => (Token.atOffset text offset).start

/-- The text that describes an offence. -/
def word (text : List Char) : Offence → List Char
  | .node token => token.text text
  | .tokenAfter offset => (Token.atOffset text offset).text

theorem report_eq (text : List Char) (offence : Offence) :
    offence.report text =
      .atOffset text (offence.index text) (Token.describe (offence.word text)) := by
  cases offence <;> rfl

end Offence

/-! ### What offends of a node -/

/-- The kinds of node that are reported at a token behind their first. -/
def lateKinds : List String :=
  ["binary_expression", "augmented_assignment_expression", "for_in_statement",
   "shorthand_property_identifier", "assignment_pattern", "method_definition"]

/-- A node of any other kind is reported at its first token. -/
theorem ofNode_of_not_late {node : Node} (h : node.kind ∉ lateKinds) :
    Offence.ofNode node = .node node.firstLeaf := by
  have hNot : ∀ kind ∈ lateKinds, node.kind ≠ kind := fun kind hKind hIs => h (hIs ▸ hKind)
  rw [Offence.ofNode]
  split
  · exact absurd ‹_› (hNot "binary_expression" (by decide))
  · exact absurd ‹_› (hNot "augmented_assignment_expression" (by decide))
  · exact absurd ‹_› (hNot "for_in_statement" (by decide))
  · exact absurd ‹_› (hNot "shorthand_property_identifier" (by decide))
  · exact absurd ‹_› (hNot "assignment_pattern" (by decide))
  · exact absurd ‹_› (hNot "method_definition" (by decide))
  · rfl

/-- What only modules have is reported at its first token. -/
theorem not_late_of_isModuleOnly {text : List Char} {node : Node} (h : isModuleOnly text node = true) :
    node.kind ∉ lateKinds := by
  have hKinds := kind_of_isModuleOnly h
  intro hLate
  revert hKinds
  generalize node.kind = kind at hLate
  revert kind
  decide

/-! ### Sightings -/

/-- What an error is seen at: the start of a node, under a description of its own, or an offence. -/
inductive Sighting where
  | start (node : Node) (description : String)
  | offending (offence : Offence)

namespace Sighting

/-- The byte offset of a sighting. -/
def index (text : List Char) : Sighting → Nat
  | .start node _ => node.start
  | .offending offence => offence.index text

def description (text : List Char) : Sighting → String
  | .start _ description => description
  | .offending offence => Token.describe (offence.word text)

/-- The error that reports a sighting. -/
def report (text : List Char) (sighting : Sighting) : BuildError :=
  .atOffset text (sighting.index text) (sighting.description text)

theorem index_report (text : List Char) (sighting : Sighting) :
    (sighting.report text).index = sighting.index text := rfl

/-- A fault is seen at the token that the parser could not take. -/
def ofFault (text : List Char) (node : Node) : Sighting :=
  .offending (.tokenAfter (if node.isMissing then node.start else faultIndex text node))

/-- A breach is seen at the node, or at what offends of it. -/
def ofBreach (node : Node) : Breach → Sighting
  | .moduleOnly => .offending (.ofNode node)
  | .withInModule => .start node "Strict mode code may not include a with statement"
  | .markup => .start node "Unexpected token <"
  | .returnOutsideFunction => .start node "Illegal return statement"
  | .tooNew => .offending (.ofNode node)

end Sighting

/-- What is seen at a node, if there is something wrong with it. -/
def sighting? (rules : Rules) (text : List Char) (ancestors : List Node) (node : Node) :
    Option Sighting :=
  if isFault node then some (.ofFault text node)
  else if node.isNamed then (rules.breach? text ancestors node).map (Sighting.ofBreach node)
  else none

variable {rules : Rules} {text : List Char}

/-- What it means that a node breaks a rule. -/
def Breaks (rules : Rules) (text : List Char) (ancestors : List Node) (node : Node) :
    Breach → Prop
  | .moduleOnly => rules.isModule = false ∧ isModuleOnly text node = true
  | .withInModule => rules.isModule = true ∧ node.kind = "with_statement"
  | .markup => rules.rejectsMarkup node = true
  | .returnOutsideFunction =>
    node.kind = "return_statement" ∧ rules.globalReturn = false ∧ withinFunction ancestors = false
  | .tooNew => rules.isTooNew text ancestors node = true

/-- **The rule that a check finds broken** is broken. -/
theorem breaks_of_breach? {ancestors : List Node} {node : Node} {breach : Breach}
    (h : rules.breach? text ancestors node = some breach) :
    rules.Breaks text ancestors node breach := by
  rw [breach?] at h
  split at h
  · rename_i hOnly
    obtain rfl := Option.some.inj h
    simpa [Breaks] using hOnly
  split at h
  · rename_i hWith
    obtain rfl := Option.some.inj h
    simpa [Breaks] using hWith
  split at h
  · obtain rfl := Option.some.inj h
    assumption
  split at h
  · rename_i hReturn
    obtain rfl := Option.some.inj h
    simpa [Breaks, and_assoc] using hReturn
  split at h
  · obtain rfl := Option.some.inj h
    assumption
  · cases h

/-- **An error is the report of a sighting.** -/
theorem errorAt?_eq_sighting (ancestors : List Node) (node : Node) :
    rules.errorAt? text ancestors node =
      (rules.sighting? text ancestors node).map (Sighting.report text) := by
  rw [errorAt?, sighting?]
  split
  · rfl
  split
  · rw [Option.map_map]
    refine congrArg (Option.map · _) (funext fun breach => ?_)
    cases breach with
    | moduleOnly => exact Offence.report_eq text _
    | withInModule => rfl
    | markup => rfl
    | returnOutsideFunction => rfl
    | tooNew => exact Offence.report_eq text _
  · rfl

/-! ### Where sightings are -/

/-- Where something wrong with a node is seen. -/
inductive Sees (text : List Char) (node : Node) : Sighting → Prop
  /-- At the node itself. -/
  | itself (description : String) : Sees text node (.start node description)
  /-- At a node of its tree. -/
  | token {token : Node} (h : token ∈ node.nodes) : Sees text node (.offending (.node token))
  /-- At the token that follows the start of the node. -/
  | atStart : Sees text node (.offending (.tokenAfter node.start))
  /-- At the token behind a node of its tree. -/
  | behind {part : Node} (h : part ∈ node.nodes) : Sees text node (.offending (.tokenAfter part.stop))
  /-- At the end of a text that ends within the node or before it. -/
  | atEnd (h : contentEnd text ≤ node.stop) :
      Sees text node (.offending (.tokenAfter (contentEnd text)))

/-- **What offends of a node** is a node of its tree or the token behind one. -/
theorem sees_ofNode (text : List Char) (node : Node) : Sees text node (.offending (.ofNode node)) := by
  have hSelf := node.mem_nodes_self
  have hLeaf : Sees text node (.offending (.node node.firstLeaf)) :=
    .token (Node.firstLeaf_mem_nodes node hSelf)
  have hAfter : ∀ field, Sees text node (.offending (.afterChild node field)) := by
    intro field
    rw [Offence.afterChild]
    split
    · rename_i child hChild
      exact .behind (Node.childOf?_mem_nodes hSelf hChild)
    · exact hLeaf
  have hOperator : Sees text node (.offending (.node ((node.childOf? "operator").getD node))) := by
    cases hChild : node.childOf? "operator" with
    | none => exact .token hSelf
    | some operator => exact .token (Node.childOf?_mem_nodes hSelf hChild)
  have hOf : Sees text node (.offending (.node ((node.childOfKind? "of").getD node.firstLeaf))) := by
    cases hChild : node.childOfKind? "of" with
    | none => exact hLeaf
    | some token => exact .token (Node.childOfKind?_mem_nodes hSelf hChild)
  rw [Offence.ofNode]
  split
  · exact hOperator
  · exact hOperator
  · exact hOf
  · exact .behind hSelf
  · exact hAfter "left"
  · exact hAfter "name"
  · exact hLeaf

theorem sees_ofFault (text : List Char) (node : Node) : Sees text node (.ofFault text node) := by
  rw [Sighting.ofFault]
  split
  · exact .atStart
  rw [faultIndex]
  split
  · rename_i hEnd
    exact .atEnd hEnd.1
  split
  · exact .atStart
  · split
    · exact .behind node.mem_nodes_self
    · exact .atStart
  · rename_i first second rest hChildren
    have hFirst : first ∈ node.children := by
      rw [hChildren]
      exact List.mem_cons_self
    split
    · exact .behind (Node.mem_nodes_of_child node.mem_nodes_self hFirst)
    · exact .atStart

/-- **Every sighting of a node** is in its tree, behind a part of it or at the end of the text. -/
theorem sees_of_sighting? {ancestors : List Node} {node : Node} {sighting : Sighting}
    (h : rules.sighting? text ancestors node = some sighting) : Sees text node sighting := by
  rw [sighting?] at h
  split at h
  · obtain rfl := Option.some.inj h
    exact sees_ofFault text node
  split at h
  · obtain ⟨breach, -, rfl⟩ := Option.map_eq_some_iff.mp h
    cases breach with
    | moduleOnly => exact sees_ofNode text node
    | withInModule => exact .itself _
    | markup => exact .itself _
    | returnOutsideFunction => exact .itself _
    | tooNew => exact sees_ofNode text node
  · cases h

/-- **A sighting is at a place,** if every node below lies in the text. -/
theorem isPlace_index {node : Node} (hFits : ∀ part ∈ node.nodes, part.Fits text)
    {sighting : Sighting} (h : Sees text node sighting) : IsPlace text (sighting.index text) := by
  have hHere := hFits node node.mem_nodes_self
  cases h with
  | itself => exact hHere.start
  | @token token hMem => exact (hFits token hMem).start
  | atStart => exact Token.isPlace_start hHere.start
  | @behind part hMem => exact Token.isPlace_start (hFits part hMem).stop
  | atEnd => exact Token.isPlace_start (Text.isPlace_trimEnd text)

/-- **In a tree in order** an error is not before its node, and no further than the token behind. -/
theorem index_mem_range {node : Node} (hOrder : node.InOrder text) {sighting : Sighting}
    (h : Sees text node sighting) :
    node.start ≤ sighting.index text ∧
      sighting.index text ≤ (Token.atOffset text node.stop).start := by
  have hNode := hOrder.fits node node.mem_nodes_self
  have hBehind := Token.le_start text node.stop
  have hLe := hNode.start_le
  cases h with
  | itself description =>
    refine ⟨Nat.le_refl _, ?_⟩
    show node.start ≤ _
    omega
  | @token token hMem =>
    have hRange := hOrder.range_of_mem hMem
    have hToken := (hOrder.fits token hMem).start_le
    refine ⟨hRange.1, ?_⟩
    show token.start ≤ _
    omega
  | atStart => exact ⟨Token.le_start text _, Token.start_mono hNode.start hNode.stop hLe⟩
  | @behind part hMem =>
    have hRange := hOrder.range_of_mem hMem
    have hPart := hOrder.fits part hMem
    have hStop := Token.le_start text part.stop
    have hPartLe := hPart.start_le
    refine ⟨?_, Token.start_mono hPart.stop hNode.stop hRange.2⟩
    show node.start ≤ (Token.atOffset text part.stop).start
    omega
  | atEnd hEnd =>
    have hAll : (Token.atOffset text (contentEnd text)).start = Text.byteLength text :=
      Token.start_of_contentEnd text
    have hStart := hNode.start.le
    refine ⟨?_, Token.start_mono (Text.isPlace_trimEnd text) hNode.stop hEnd⟩
    show node.start ≤ (Token.atOffset text (contentEnd text)).start
    omega

/-! ### Sightings and reports -/

/-- **Every report of a check** is that of a sighting at a position that the check examines. -/
theorem exists_sighting_of_mem_reports {root : Node} {report : Cursor × BuildError}
    (h : report ∈ rules.reports text root) :
    report.1 ∈ rules.examined text root ∧ ∃ sighting,
      rules.sighting? text report.1.ancestors report.1.node = some sighting ∧
        report.2 = sighting.report text := by
  obtain ⟨cursor, hSeen, hReport⟩ := List.mem_filterMap.mp h
  obtain ⟨error, hError, rfl⟩ := Option.map_eq_some_iff.mp hReport
  rw [errorAt?_eq_sighting] at hError
  obtain ⟨sighting, hSighting, rfl⟩ := Option.map_eq_some_iff.mp hError
  exact ⟨hSeen, sighting, hSighting, rfl⟩

theorem mem_positions_of_examined {root : Node} {cursor : Cursor}
    (h : cursor ∈ rules.examined text root) : cursor ∈ root.positions := by
  rw [examined_eq, Cursor.mem_seen] at h
  exact h.1

/-- **Below a fault** nothing is examined. -/
theorem isFault_of_above {root : Node} {above cursor : Cursor}
    (h : cursor ∈ rules.examined text root) (hAbove : Cursor.Above above cursor) :
    isFault above.node = false := by
  rw [examined_eq, Cursor.mem_seen] at h
  have hMem := (Cursor.mem_below_of_above hAbove h.1).2
  have hNone := List.any_eq_false.mp h.2 above.node (Node.parent_mem_ancestors hMem)
  rw [hidesBelow, Bool.or_eq_true, not_or] at hNone
  exact Bool.eq_false_iff.mpr hNone.1

end Rules

end ScriptAnalysis
