import ScriptAnalysis.Proofs.Sightings

/-!
# Where errors are

The errors of a check are looked for from many sides: from the ends of nodes and of their parts,
from the end of the text, from the token that comes next.  When every node of the tree lies in the
text, each of them ends up at a place of the text.

* `offence_cases`: a construct that offends is reported at a node of the tree or after a place.
* `isPlace_recovery`: a fault is looked for from a place.
* `exists_place_of_mem_check`: every error of a check is one at a place.
-/

namespace ScriptAnalysis.Rules

open Syntax (Cursor Node)
open Text (IsPlace Token)

variable {text : List Char} {root : Node} (hFits : ∀ node ∈ root.nodes, node.Fits text)

include hFits

/-- **A construct that offends** is reported at a node of the tree or at the token after a place. -/
theorem offence_cases {node : Node} (hMem : node ∈ root.nodes) :
    (∃ token ∈ root.nodes, Offence.ofNode node = .node token) ∨
      ∃ index, IsPlace text index ∧ Offence.ofNode node = .tokenAfter index := by
  have hSees := sees_ofNode text node
  generalize Offence.ofNode node = offence at hSees ⊢
  cases hSees with
  | @token token hToken => exact .inl ⟨token, Node.mem_nodes_trans hMem hToken, rfl⟩
  | atStart => exact .inr ⟨_, (hFits node hMem).start, rfl⟩
  | @behind part hPart => exact .inr ⟨_, (hFits part (Node.mem_nodes_trans hMem hPart)).stop, rfl⟩
  | atEnd => exact .inr ⟨_, Text.isPlace_trimEnd text, rfl⟩

/-- **A fault** is looked for from a place. -/
theorem isPlace_recovery {node : Node} (hMem : node ∈ root.nodes) :
    IsPlace text (if node.isMissing then node.start else faultIndex text node) := by
  have hSees := sees_ofFault text node
  rw [Sighting.ofFault] at hSees
  generalize (if node.isMissing then node.start else faultIndex text node) = offset at hSees ⊢
  cases hSees with
  | atStart => exact (hFits node hMem).start
  | @behind part hPart => exact (hFits part (Node.mem_nodes_trans hMem hPart)).stop
  | atEnd => exact Text.isPlace_trimEnd text

/-- **Every error of a check** is one at a place of the text. -/
theorem exists_place_of_mem_check (rules : Rules) {error : BuildError}
    (h : error ∈ rules.check text root) :
    ∃ place description, IsPlace text place ∧ error = .atOffset text place description := by
  rw [← map_reports] at h
  obtain ⟨report, hReport, rfl⟩ := List.mem_map.mp h
  obtain ⟨hSeen, sighting, hSighting, hError⟩ := exists_sighting_of_mem_reports hReport
  have hMem : report.1.node ∈ root.nodes :=
    List.mem_map_of_mem (mem_positions_of_examined hSeen)
  have hPlace := isPlace_index (fun part hPart => hFits part (Node.mem_nodes_trans hMem hPart))
    (sees_of_sighting? hSighting)
  exact ⟨_, _, hPlace, hError⟩

end ScriptAnalysis.Rules
