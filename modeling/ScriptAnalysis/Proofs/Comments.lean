import ScriptAnalysis.Proofs.NewSyntax

/-!
# Errors and comments

A comment is no token.  But the token behind a node is looked for in the text, where only blanks are
passed over, so that the slash which a comment begins with is taken for a token.

* `plain_of_sighting?`: a node that an error describes has no comment in it.
* `stands_of_sighting?`: how an error stands to a comment.  It is before it or behind it, or it is at
  the comment's first byte: at a node that begins there, or because only blanks part the comment
  from where a token was looked for.
* `check_beside_comments`: so no error is further inside a comment, and which ones are at its slash.
-/

namespace ScriptAnalysis

open Syntax (Cursor Node opensFunction)
open Text (IsPlace Token byteLength isBlank)

namespace Text

/-- Whether only blanks stand between two byte offsets. -/
def blankBetween (text : List Char) (first second : Nat) : Bool :=
  (slice? text first second).any fun part => part.all isBlank

theorem blankBetween_append (before between after : List Char) :
    blankBetween (before ++ (between ++ after)) (byteLength before)
      (byteLength before + byteLength between) = between.all isBlank := by
  rw [blankBetween, slice?_append, Option.any_some]

/-- A slash stands at a byte offset. -/
def IsSlash (text : List Char) (offset : Nat) : Prop :=
  ∃ before rest, text = before ++ '/' :: rest ∧ offset = byteLength before

theorem IsSlash.isPlace {text : List Char} {offset : Nat} (h : IsSlash text offset) :
    IsPlace text offset := by
  obtain ⟨before, rest, hText, hOffset⟩ := h
  exact ⟨before, '/' :: rest, hText, hOffset⟩

/-- **A slash is never passed over:** a token that is looked for in front of it ends there, unless
there are only blanks up to the slash; then the slash is the token. -/
theorem Token.stop_le_or_slash {text : List Char} {offset slash : Nat}
    (hOffset : IsPlace text offset) (hSlash : IsSlash text slash) (hLe : offset ≤ slash) :
    (blankBetween text offset slash = false ∧ (atOffset text offset).start < slash ∧
      (atOffset text offset).start + byteLength (atOffset text offset).text ≤ slash) ∨
    (blankBetween text offset slash = true ∧ atOffset text offset = ⟨slash, ['/']⟩) := by
  obtain ⟨before, between, after, hText, rfl, rfl⟩ :=
    hOffset.exists_between hSlash.isPlace hLe
  obtain ⟨whole, rest, hWhole, hLength⟩ := hSlash
  rw [← byteLength_append] at hLength
  have hCut : (before ++ between) ++ after = whole ++ '/' :: rest := by
    rw [List.append_assoc, ← hText, hWhole]
  obtain ⟨-, rfl⟩ := append_inj_of_byteLength hCut hLength
  subst hText
  rw [blankBetween_append]
  exact stop_le_or_blanks before between (by decide) (by decide)

/-- **Behind blanks** the slash is the token. -/
theorem Token.eq_slash_of_blankBetween {text : List Char} {offset slash : Nat}
    (hSlash : IsSlash text slash) (hBlank : blankBetween text offset slash = true) :
    atOffset text offset = ⟨slash, ['/']⟩ := by
  have hSlice := hBlank
  rw [blankBetween, Option.any_eq_true] at hSlice
  obtain ⟨blanks, hSlice, -⟩ := hSlice
  obtain ⟨before, after, hText, hOffset, hPlace⟩ := of_slice? hSlice
  have hLe : offset ≤ slash := by omega
  rcases stop_le_or_slash ⟨before, _, hText, hOffset⟩ hSlash hLe with ⟨hInk, -⟩ | ⟨-, hToken⟩
  · rw [hBlank] at hInk
    cases hInk
  · exact hToken

end Text

namespace Syntax.Node

/-- Comments are leaves that begin with a slash, and the word `of` is a leaf. -/
structure SetsCommentsApart (text : List Char) (root : Node) : Prop where
  leaf : ∀ node ∈ root.nodes, node.kind = "comment" → node.children = []
  slash : ∀ node ∈ root.nodes, node.kind = "comment" → (node.text text).head? = some '/'
  word : ∀ node ∈ root.nodes, node.kind = "of" → node.children = []

instance (text : List Char) (root : Node) : Decidable (root.SetsCommentsApart text) :=
  decidable_of_iff
    ((∀ node ∈ root.nodes, node.kind = "comment" → node.children = []) ∧
      (∀ node ∈ root.nodes, node.kind = "comment" → (node.text text).head? = some '/') ∧
      ∀ node ∈ root.nodes, node.kind = "of" → node.children = [])
    ⟨fun ⟨hLeaf, hSlash, hWord⟩ => ⟨hLeaf, hSlash, hWord⟩,
      fun ⟨hLeaf, hSlash, hWord⟩ => ⟨hLeaf, hSlash, hWord⟩⟩

theorem children_firstLeaf : ∀ node : Node, node.firstLeaf.children = []
  | .mk label [] => by rw [firstLeaf]; rfl
  | .mk label (child :: right) => by
    rw [firstLeaf]
    exact children_firstLeaf child

/-- The tree of a leaf is the leaf. -/
theorem eq_of_mem_leaf {leaf node : Node} (hLeaf : leaf.children = []) (h : node ∈ leaf.nodes) :
    node = leaf := by
  rw [← leaf.eta, hLeaf, nodes_mk] at h
  rw [← leaf.eta, hLeaf]
  exact List.mem_singleton.mp h

theorem Fits.isSlash {text : List Char} {node : Node} (h : node.Fits text)
    (hSlash : (node.text text).head? = some '/') :
    Text.IsSlash text node.start ∧ node.start < node.stop := by
  obtain ⟨before, after, hText, hStart, hStop⟩ := h.exists_text
  cases hNode : node.text text with
  | nil =>
    rw [hNode] at hSlash
    cases hSlash
  | cons c rest =>
    rw [hNode] at hSlash hText hStop
    obtain rfl := Option.some.inj hSlash
    refine ⟨⟨before, rest ++ after, hText, hStart⟩, ?_⟩
    have hPositive := Char.utf8Size_pos '/'
    rw [Text.byteLength_cons] at hStop
    omega

/-- **What a node covers** has in it what the nodes below it begin with. -/
theorem InOrder.slash_mem_text {text : List Char} {outer inner : Node} (h : outer.InOrder text)
    (hMem : inner ∈ outer.nodes) (hSlash : (inner.text text).head? = some '/') :
    '/' ∈ outer.text text := by
  have hOuter := h.fits outer outer.mem_nodes_self
  have hInner := h.fits inner hMem
  obtain ⟨hStart, hStop⟩ := h.range_of_mem hMem
  obtain ⟨⟨whole, rest, hWhole, hAt⟩, hNonempty⟩ := hInner.isSlash hSlash
  obtain ⟨before, after, hText, hBefore, hAfter⟩ := hOuter.exists_text
  generalize outer.text text = covered at hText hAfter ⊢
  -- The slash is cut off behind a part of what the outer node covers.
  have hBegins : before <+: whole :=
    Text.prefix_of_byteLength_le ⟨_, hText.symm⟩ ⟨_, hWhole.symm⟩ (by omega)
  obtain ⟨part, rfl⟩ := hBegins
  rw [List.append_assoc] at hWhole
  have hSame : covered ++ after = part ++ '/' :: rest :=
    List.append_cancel_left (hText.symm.trans hWhole)
  rw [Text.byteLength_append] at hAt
  have hPart : part <+: covered :=
    Text.prefix_of_byteLength_le ⟨_, rfl⟩ ⟨_, hSame⟩ (by omega)
  obtain ⟨tail, rfl⟩ := hPart
  rw [List.append_assoc] at hSame
  have hTail : tail ++ after = '/' :: rest := List.append_cancel_left hSame
  cases tail with
  | nil =>
    rw [List.append_nil] at hAfter
    omega
  | cons c tail =>
    obtain ⟨rfl, -⟩ := List.cons.inj hTail
    exact List.mem_append_right _ List.mem_cons_self

end Syntax.Node

namespace Rules

variable {rules : Rules} {text : List Char} {ancestors : List Node} {node comment : Node}

/-! ### Nodes that an error describes -/

/-- An operator is new where its text is in the table. -/
theorem exists_of_operatorReasons {years : List (String × Nat)} {reason : Reason}
    (h : reason ∈ operatorReasons years text node) :
    ∃ operator, node.childOf? "operator" = some operator ∧
      (String.ofList (operator.text text), reason.year) ∈ years := by
  rw [operatorReasons] at h
  split at h
  · rename_i operator year hOperator hYear
    obtain rfl := List.mem_singleton.mp h
    rw [operatorText, hOperator] at hYear
    obtain ⟨_, _, hYears, -⟩ := List.lookup_eq_some_iff.mp hYear
    rw [hYears]
    exact ⟨operator, hOperator, List.mem_append_right _ List.mem_cons_self⟩
  · cases h

/-- **An operator that is too new** has no slash in it. -/
theorem slash_not_mem_of_operator
    (hKind : node.kind = "binary_expression" ∨ node.kind = "augmented_assignment_expression")
    (h : rules.isTooNew text ancestors node = true) :
    '/' ∉ ((node.childOf? "operator").getD node).text text := by
  have hWords : ∀ entry ∈ binaryYears ++ assignmentYears, '/' ∉ entry.1.toList := by
    decide
  have hSlash : ∀ {years : List (String × Nat)} {reason : Reason},
      years ⊆ binaryYears ++ assignmentYears → reason ∈ operatorReasons years text node →
        '/' ∉ ((node.childOf? "operator").getD node).text text := by
    intro years reason hYears hReason
    obtain ⟨operator, hOperator, hMem⟩ := exists_of_operatorReasons hReason
    have hWord := hWords _ (hYears hMem)
    rw [String.toList_ofList] at hWord
    rw [hOperator]
    exact hWord
  -- It is too new for its operator: an expression is no function, and so is not asynchronous.
  obtain ⟨-, reason, hReason, -⟩ := exists_newer_of_isTooNew h
  rcases List.mem_append.mp hReason with hForm | hAsync
  · rcases hKind with hKind | hKind
    · simp only [formReasons, hKind] at hForm
      exact hSlash (List.subset_append_left _ _) hForm
    · simp only [formReasons, hKind] at hForm
      exact hSlash (List.subset_append_right _ _) hForm
  · have hFunction := (isAsynchrony_of_mem hAsync).1
    rcases hKind with hKind | hKind <;> rw [hKind] at hFunction <;> exact absurd hFunction (by decide)

/-- A node that holds no comment: a leaf, the word `of`, or one whose text has no slash. -/
def IsPlain (text : List Char) (token : Node) : Prop :=
  token.children = [] ∨ token.kind = "of" ∨ '/' ∉ token.text text

theorem isPlain_firstLeaf (node : Node) : IsPlain text node.firstLeaf :=
  .inl node.children_firstLeaf

theorem isPlain_of_afterChild {token : Node} {field : String}
    (h : Offence.afterChild node field = .node token) : IsPlain text token := by
  rw [Offence.afterChild] at h
  split at h
  · cases h
  · obtain rfl := Offence.node.inj h
    exact isPlain_firstLeaf node

theorem isPlain_of_isTooNew {token : Node} (h : rules.isTooNew text ancestors node = true)
    (hNode : Offence.ofNode node = .node token) : IsPlain text token := by
  rw [Offence.ofNode] at hNode
  split at hNode
  · rename_i hKind
    obtain rfl := Offence.node.inj hNode
    exact .inr (.inr (slash_not_mem_of_operator (.inl hKind) h))
  · rename_i hKind
    obtain rfl := Offence.node.inj hNode
    exact .inr (.inr (slash_not_mem_of_operator (.inr hKind) h))
  · obtain rfl := Offence.node.inj hNode
    cases hOf : node.childOfKind? "of" with
    | none => exact isPlain_firstLeaf node
    | some token =>
      rw [Node.childOfKind?] at hOf
      have hWord := List.find?_some hOf
      exact .inr (.inl (eq_of_beq hWord))
  · cases hNode
  · exact isPlain_of_afterChild hNode
  · exact isPlain_of_afterChild hNode
  · obtain rfl := Offence.node.inj hNode
    exact isPlain_firstLeaf node

/-- **A node that an error describes** holds no comment. -/
theorem plain_of_sighting? {token : Node}
    (h : rules.sighting? text ancestors node = some (.offending (.node token))) :
    IsPlain text token := by
  rw [sighting?] at h
  split at h
  · cases h
  split at h
  · obtain ⟨breach, hBreach, hSighting⟩ := Option.map_eq_some_iff.mp h
    cases breach with
    | moduleOnly =>
      have hNode := Sighting.offending.inj hSighting
      rw [ofNode_of_not_late (not_late_of_isModuleOnly (breaks_of_breach? hBreach).2)] at hNode
      obtain rfl := Offence.node.inj hNode
      exact isPlain_firstLeaf node
    | withInModule => cases hSighting
    | markup => cases hSighting
    | returnOutsideFunction => cases hSighting
    | tooNew =>
      exact isPlain_of_isTooNew (breaks_of_breach? hBreach) (Sighting.offending.inj hSighting)
  · cases h

/-! ### Errors beside comments -/

namespace Sighting

/-- The number of bytes that the description of a sighting is taken from. -/
def extent (text : List Char) : Sighting → Nat
  | .start _ _ => 0
  | .offending offence => byteLength (offence.word text)

/-- The node that a sighting is at; none if a token was looked for. -/
def node? : Sighting → Option Node
  | .start node _ => some node
  | .offending (.node token) => some token
  | .offending (.tokenAfter _) => none

/-- How a sighting of a node stands to a comment. -/
inductive Stands (text : List Char) (node comment : Node) (sighting : Sighting) : Prop
  /-- It ends before the comment. -/
  | before (hIndex : sighting.index text < comment.start)
      (hEnd : sighting.index text + sighting.extent text ≤ comment.start)
  /-- It comes behind the comment. -/
  | behind (hIndex : comment.stop ≤ sighting.index text)
  /-- It is at a node that begins with the comment, or at an empty one in front of it. -/
  | atNode {seen : Node} (hSeen : sighting.node? = some seen)
      (hIndex : sighting.index text = comment.start)
      (hBegins : comment ∈ seen.nodes ∨ seen.stop = comment.start)
  /-- Its token was looked for, and only blanks were passed over before the comment. -/
  | atSlash {offset : Nat} (hSighting : sighting = .offending (.tokenAfter offset))
      (hFrom : offset = node.start ∨ ∃ part ∈ node.nodes, offset = part.stop)
      (hBlank : Text.blankBetween text offset comment.start = true)
      (hIndex : sighting.index text = comment.start)

variable {root : Node} {sighting : Sighting}

/-- At a node: it has the comment in it, or they are apart. -/
theorem stands_of_seen (hOrder : root.InOrder text) (hComments : root.SetsCommentsApart text)
    (hComment : comment ∈ root.nodes) (hKind : comment.kind = "comment") {seen : Node}
    (hSeen : seen ∈ root.nodes) (hNode : sighting.node? = some seen)
    (hIndex : sighting.index text = seen.start)
    (hExtent : seen.start + sighting.extent text ≤ seen.stop)
    (hWithin : comment ∈ seen.nodes → seen.start < comment.start → sighting.extent text = 0) :
    sighting.Stands text node comment := by
  have hLe := (hOrder.fits seen hSeen).start_le
  rcases hOrder.inside_or_apart hSeen hComment with hInside | hAround | hBefore | hBehind
  · rcases Nat.eq_or_lt_of_le ((hOrder.of_mem hSeen).range_of_mem hInside).1 with hSame | hLess
    · exact .atNode hNode (hIndex.trans hSame) (.inl hInside)
    · have hNone := hWithin hInside hLess
      exact .before (by omega) (by omega)
  · obtain rfl := Node.eq_of_mem_leaf (hComments.leaf comment hComment hKind) hAround
    exact .atNode hNode hIndex (.inl (Node.mem_nodes_self _))
  · by_cases hLess : seen.start < comment.start
    · exact .before (by omega) (by omega)
    · exact .atNode hNode (by omega) (.inr (by omega))
  · exact .behind (by omega)

/-- At a token that was looked for from a place that is not in the comment. -/
theorem stands_of_tokenAfter (hOrder : root.InOrder text)
    (hComments : root.SetsCommentsApart text) (hComment : comment ∈ root.nodes)
    (hKind : comment.kind = "comment") {offset : Nat} (hPlace : IsPlace text offset)
    (hFrom : offset = node.start ∨ ∃ part ∈ node.nodes, offset = part.stop)
    (hSide : offset ≤ comment.start ∨ comment.stop ≤ offset) :
    (Sighting.offending (.tokenAfter offset)).Stands text node comment := by
  rcases hSide with hBefore | hBehind
  · have hSlash := ((hOrder.fits comment hComment).isSlash
      (hComments.slash comment hComment hKind)).1
    rcases Token.stop_le_or_slash hPlace hSlash hBefore with ⟨-, hStart, hStop⟩ | ⟨hBlank, hToken⟩
    · exact .before hStart hStop
    · exact .atSlash rfl hFrom hBlank (congrArg Token.start hToken)
  · exact .behind (hBehind.trans (Token.le_start text offset))

end Sighting

/-- **How an error stands to a comment.** -/
theorem stands_of_sighting? {root : Node} (hOrder : root.InOrder text)
    (hComments : root.SetsCommentsApart text) (hNode : node ∈ root.nodes) {sighting : Sighting}
    (hSighting : rules.sighting? text ancestors node = some sighting)
    (hComment : comment ∈ root.nodes) (hKind : comment.kind = "comment") :
    sighting.Stands text node comment := by
  have hLeaf := hComments.leaf comment hComment hKind
  have hFits := hOrder.fits comment hComment
  have hSlash := hComments.slash comment hComment hKind
  -- What a node starts and ends with is not inside a comment: that has no nodes below it.
  have hSides : ∀ {part : Node}, part ∈ root.nodes →
      (part.start ≤ comment.start ∨ comment.stop ≤ part.start) ∧
        (part.stop ≤ comment.start ∨ comment.stop ≤ part.stop) := by
    intro part hPart
    have hLe := (hOrder.fits part hPart).start_le
    have hCommentLe := hFits.start_le
    rcases hOrder.inside_or_apart hPart hComment with hInside | hAround | hBefore | hBehind
    · have hRange := (hOrder.of_mem hPart).range_of_mem hInside
      omega
    · rw [Node.eq_of_mem_leaf hLeaf hAround]
      omega
    · omega
    · omega
  have hHere := hOrder.fits node hNode
  cases sees_of_sighting? hSighting with
  | itself description =>
    exact Sighting.stands_of_seen hOrder hComments hComment hKind hNode rfl rfl hHere.start_le
      fun _ _ => rfl
  | @token token hMem =>
    have hToken : token ∈ root.nodes := Node.mem_nodes_trans hNode hMem
    obtain ⟨before, after, -, hStart, hStop⟩ := (hOrder.fits token hToken).exists_text
    have hExtent : token.start + byteLength (token.text text) = token.stop := by omega
    refine Sighting.stands_of_seen hOrder hComments hComment hKind hToken rfl rfl hExtent.le ?_
    intro hInside hLess
    have hNotLeaf : token.children ≠ [] := by
      intro hTokenLeaf
      rw [Node.eq_of_mem_leaf hTokenLeaf hInside] at hLess
      exact Nat.lt_irrefl _ hLess
    rcases plain_of_sighting? hSighting with hIs | hWord | hNoSlash
    · exact absurd hIs hNotLeaf
    · exact absurd (hComments.word token hToken hWord) hNotLeaf
    · exact absurd ((hOrder.of_mem hToken).slash_mem_text hInside hSlash) hNoSlash
  | atStart =>
    exact Sighting.stands_of_tokenAfter hOrder hComments hComment hKind hHere.start (.inl rfl)
      (hSides hNode).1
  | @behind part hMem =>
    have hPart : part ∈ root.nodes := Node.mem_nodes_trans hNode hMem
    exact Sighting.stands_of_tokenAfter hOrder hComments hComment hKind
      (hOrder.fits part hPart).stop (.inr ⟨part, hMem, rfl⟩) (hSides hPart).2
  | atEnd =>
    refine .behind (hFits.stop.le.trans ?_)
    exact (Token.start_of_contentEnd text).ge

/-- **Errors stay out of comments but for their first byte.**  In a tree in order, every error ends
before a comment or comes behind it, or it is at the comment's first byte.  There it is at a node
that begins with the comment or is empty, or its token was looked for from the start of its node or
the end of a part of it, and only blanks stand between that and the comment: such an error is always
there, and takes the comment's slash for the token. -/
theorem check_beside_comments (rules : Rules) (text : List Char) (root : Node)
    (hOrder : root.InOrder text) (hComments : root.SetsCommentsApart text) :
    ∀ report ∈ rules.reports text root, ∃ sighting,
      rules.sighting? text report.1.ancestors report.1.node = some sighting ∧
      report.2 = sighting.report text ∧
      ∀ comment ∈ root.nodes, comment.kind = "comment" →
        sighting.Stands text report.1.node comment ∧
        (comment.start ≤ report.2.index ∧ report.2.index < comment.stop ↔
          report.2.index = comment.start) ∧
        ∀ offset, sighting = .offending (.tokenAfter offset) →
          (report.2.index = comment.start ↔
            Text.blankBetween text offset comment.start = true) ∧
          (report.2.index = comment.start →
            report.2.description? = some "Unexpected token /") := by
  intro report hReport
  obtain ⟨hSeen, sighting, hSighting, hError⟩ := exists_sighting_of_mem_reports hReport
  have hNode : report.1.node ∈ root.nodes :=
    List.mem_map_of_mem (mem_positions_of_examined hSeen)
  have hIndex : report.2.index = sighting.index text := congrArg BuildError.index hError
  refine ⟨sighting, hSighting, hError, fun comment hComment hKind => ?_⟩
  have hStands := stands_of_sighting? hOrder hComments hNode hSighting hComment hKind
  obtain ⟨hSlash, hNonempty⟩ := (hOrder.fits comment hComment).isSlash
    (hComments.slash comment hComment hKind)
  refine ⟨hStands, ⟨?_, ?_⟩, ?_⟩
  · rintro ⟨hStart, hStop⟩
    rw [hIndex] at hStart hStop ⊢
    cases hStands with
    | before hLess _ => exact absurd hLess (Nat.not_lt.mpr hStart)
    | behind hLe => exact absurd hStop (Nat.not_lt.mpr hLe)
    | atNode _ hAt _ => exact hAt
    | atSlash _ _ _ hAt => exact hAt
  · intro hAt
    omega
  · rintro offset rfl
    have hToken : Text.blankBetween text offset comment.start = true →
        Token.atOffset text offset = ⟨comment.start, ['/']⟩ :=
      Token.eq_slash_of_blankBetween hSlash
    have hBlank : report.2.index = comment.start →
        Text.blankBetween text offset comment.start = true := by
      intro hAt
      rw [hIndex] at hAt
      cases hStands with
      | before hLess _ => omega
      | behind hLe => omega
      | atNode hSeen _ _ => cases hSeen
      | atSlash hIs _ hBlank _ =>
        cases hIs
        exact hBlank
    refine ⟨⟨hBlank, fun hIs => ?_⟩, fun hAt => ?_⟩
    · rw [hIndex]
      exact congrArg Token.start (hToken hIs)
    · have hWord : (Token.atOffset text offset).text = ['/'] :=
        congrArg Token.text (hToken (hBlank hAt))
      rw [hError]
      show some (Token.describe (Token.atOffset text offset).text) = _
      rw [hWord]
      decide

/-- The code `var o = {a /* x */ , b};`: a comment stands behind the first property. -/
def commentBehindName : Node :=
  .mk { kind := "program", start := 0, stop := 24 } [
    .mk { kind := "variable_declaration", start := 0, stop := 24 } [
      .mk { kind := "var", named := false, start := 0, stop := 3 } [],
      .mk { kind := "variable_declarator", start := 4, stop := 23 } [
        .mk { kind := "identifier", start := 4, stop := 5, field := some "name" } [],
        .mk { kind := "=", named := false, start := 6, stop := 7 } [],
        .mk { kind := "object", start := 8, stop := 23, field := some "value" } [
          .mk { kind := "\x7b", named := false, start := 8, stop := 9 } [],
          .mk { kind := "shorthand_property_identifier", start := 9, stop := 10 } [],
          .mk { kind := "comment", start := 11, stop := 18 } [],
          .mk { kind := ",", named := false, start := 19, stop := 20 } [],
          .mk { kind := "shorthand_property_identifier", start := 21, stop := 22 } [],
          .mk { kind := "\x7d", named := false, start := 22, stop := 23 } []]],
      .mk { kind := ";", named := false, start := 23, stop := 24 } []]]

/-- **A comment's slash may be reported:** in the edition of 2009 the token behind the first name is
the comma, but the error is at the comment in front of it. -/
theorem slash_of_comment_reported :
    let text := "var o = \x7ba /* x */ , b\x7d;".toList
    let rules : Rules := { plain with year := 2009 }
    commentBehindName.InOrder text ∧ commentBehindName.SetsCommentsApart text ∧
    rules.check text commentBehindName = [.malformed 1 12 11 "Unexpected token /",
      .malformed 1 23 22 "Unexpected token \x7d"] ∧
    ∃ comment ∈ commentBehindName.nodes, comment.kind = "comment" ∧
      comment.start ≤ 11 ∧ 11 < comment.stop := by
  decide +kernel

/-- The error at the comment takes its slash for the token, with only blanks passed over; the one at
the other name is behind the comment. -/
theorem check_beside_comments_of_commentBehindName :
    let text := "var o = \x7ba /* x */ , b\x7d;".toList
    let rules : Rules := { plain with year := 2009 }
    (rules.reports text commentBehindName).map (·.2.index) = [11, 22] ∧
    ∀ report ∈ rules.reports text commentBehindName, ∀ comment ∈ commentBehindName.nodes,
      comment.kind = "comment" →
        comment.stop ≤ report.2.index ∨
        (report.2.description? = some "Unexpected token /" ∧
          ∃ offset, Text.blankBetween text offset comment.start = true) := by
  intro text rules
  have hLookedFor : ∀ report ∈ rules.reports text commentBehindName,
      ((rules.sighting? text report.1.ancestors report.1.node).bind Sighting.node?).isNone =
        true := by
    decide +kernel
  have hNotBefore : ∀ report ∈ rules.reports text commentBehindName,
      ∀ comment ∈ commentBehindName.nodes, comment.kind = "comment" →
        comment.start ≤ report.2.index := by
    decide +kernel
  refine ⟨by decide +kernel, fun report hReport comment hComment hKind => ?_⟩
  obtain ⟨sighting, hSighting, hError, hEach⟩ := check_beside_comments rules text
    commentBehindName (by decide +kernel) (by decide +kernel) report hReport
  obtain ⟨hStands, -, hSlash⟩ := hEach comment hComment hKind
  have hIndex : report.2.index = sighting.index text := congrArg BuildError.index hError
  have hNone := hLookedFor report hReport
  rw [hSighting, Option.bind_some] at hNone
  cases hStands with
  | before hLess _ =>
    have hLe := hNotBefore report hReport comment hComment hKind
    omega
  | behind hLe => exact .inl (hLe.trans_eq hIndex.symm)
  | atNode hSeen _ _ =>
    rw [hSeen] at hNone
    cases hNone
  | atSlash hIs _ hBlank hAt => exact .inr ⟨(hSlash _ hIs).2 (hIndex.trans hAt), _, hBlank⟩

end Rules

end ScriptAnalysis
