import Mathlib.Data.List.DropRight
import Mathlib.Data.List.Infix
import ScriptAnalysis.Proofs.Positions
import ScriptAnalysis.Rules.Recovery

/-!
# Places in a text

A place is a byte offset at which a text can be cut: the offset of a character or of the end.

* `IsPlace.exists_between`: between two places there is a part of the text.
* `exists_slice?_of_le`, `of_slice?`: which is the slice between them.
* `Position.after_eq`: a position counts the line feeds before it and the bytes since the last.
* `IsPlace.isPositionOf`: so the line and the column of a place lead back to it.
* `Token.isPlace_start`: the token after a place begins at a place.
-/

namespace ScriptAnalysis.Text

/-- A byte offset at which a text can be cut. -/
def IsPlace (text : List Char) (offset : Nat) : Prop :=
  ∃ before after, text = before ++ after ∧ offset = byteLength before

theorem isPlace_iff {text : List Char} {offset : Nat} :
    IsPlace text offset ↔ (splitAt? text offset).isSome = true := by
  rw [Option.isSome_iff_exists]
  constructor
  · rintro ⟨before, after, hText, hOffset⟩
    exact ⟨(before, after), splitAt?_eq_some_iff.mpr ⟨hText, hOffset⟩⟩
  · rintro ⟨⟨before, after⟩, hSplit⟩
    obtain ⟨hText, hOffset⟩ := splitAt?_eq_some_iff.mp hSplit
    exact ⟨before, after, hText, hOffset⟩

instance (text : List Char) (offset : Nat) : Decidable (IsPlace text offset) :=
  decidable_of_iff _ isPlace_iff.symm

/-- A place lies within the text. -/
theorem IsPlace.le {text : List Char} {offset : Nat} (h : IsPlace text offset) :
    offset ≤ byteLength text := by
  obtain ⟨before, after, rfl, rfl⟩ := h
  rw [byteLength_append]
  exact Nat.le_add_right _ _

/-- Of two initial segments the shorter one, in bytes, begins the other. -/
theorem prefix_of_byteLength_le {first second text : List Char} (hFirst : first <+: text)
    (hSecond : second <+: text) (hLe : byteLength first ≤ byteLength second) :
    first <+: second := by
  rcases List.prefix_or_prefix_of_prefix hFirst hSecond with hIs | ⟨rest, hRest⟩
  · exact hIs
  · have hLength := congrArg byteLength hRest
    rw [byteLength_append] at hLength
    have hNil : rest = [] := byteLength_eq_zero.mp (by omega)
    rw [hNil, List.append_nil] at hRest
    rw [hRest]

/-- A text is cut at a place in one way only. -/
theorem append_inj_of_byteLength {first second after rest : List Char}
    (h : first ++ after = second ++ rest) (hLength : byteLength first = byteLength second) :
    first = second ∧ after = rest := by
  have hFirst : splitAt? (first ++ after) (byteLength first) = some (first, after) :=
    splitAt?_eq_some_iff.mpr ⟨rfl, rfl⟩
  rw [splitAt?_eq_some_iff.mpr ⟨h, hLength⟩] at hFirst
  obtain ⟨hSecond, hRest⟩ := Prod.mk.inj (Option.some.inj hFirst)
  exact ⟨hSecond.symm, hRest.symm⟩

/-- Of two places the first is that of an initial segment of the part before the second. -/
theorem IsPlace.exists_between {text : List Char} {first second : Nat} (hFirst : IsPlace text first)
    (hSecond : IsPlace text second) (hLe : first ≤ second) :
    ∃ before between after, text = before ++ (between ++ after) ∧ first = byteLength before ∧
      second = byteLength before + byteLength between := by
  obtain ⟨before, afterFirst, hText, rfl⟩ := hFirst
  obtain ⟨whole, after, hWhole, rfl⟩ := hSecond
  obtain ⟨between, rfl⟩ :=
    prefix_of_byteLength_le ⟨afterFirst, hText.symm⟩ ⟨after, hWhole.symm⟩ hLe
  exact ⟨before, between, after, by rw [hWhole, List.append_assoc], rfl, byteLength_append _ _⟩

/-- **A text has a slice** between any two of its places. -/
theorem exists_slice?_of_le {text : List Char} {start stop : Nat} (hStart : IsPlace text start)
    (hStop : IsPlace text stop) (hLe : start ≤ stop) :
    ∃ slice, slice? text start stop = some slice := by
  obtain ⟨before, slice, after, rfl, rfl, rfl⟩ := hStart.exists_between hStop hLe
  exact ⟨slice, slice?_append before slice after⟩

/-- A slice lies between its two ends. -/
theorem of_slice? {text part : List Char} {first second : Nat}
    (h : slice? text first second = some part) :
    ∃ before after, text = before ++ (part ++ after) ∧ first = byteLength before ∧
      second = byteLength before + byteLength part := by
  rw [slice?] at h
  split at h
  · obtain ⟨whole, hWhole, hFrom⟩ := Option.bind_eq_some_iff.mp h
    obtain ⟨⟨_, after⟩, hSecond, rfl⟩ := Option.map_eq_some_iff.mp hWhole
    obtain ⟨⟨before, _⟩, hFirst, rfl⟩ := Option.map_eq_some_iff.mp hFrom
    obtain ⟨rfl, rfl⟩ := splitAt?_eq_some_iff.mp hSecond
    obtain ⟨hText, rfl⟩ := splitAt?_eq_some_iff.mp hFirst
    simp only at hText
    rw [hText]
    exact ⟨before, after, List.append_assoc _ _ _, rfl, byteLength_append _ _⟩
  · cases h

/-! ### Lines and columns -/

/-- The byte offset just after a number of line feeds, none if there are not so many. -/
def afterLineFeeds? : List Char → Nat → Option Nat
  | _, 0 => some 0
  | [], _ + 1 => none
  | c :: rest, count + 1 =>
    (afterLineFeeds? rest (if c = '\n' then count else count + 1)).map (c.utf8Size + ·)

theorem afterLineFeeds?_zero (text : List Char) : afterLineFeeds? text 0 = some 0 := by
  cases text <;> rfl

/-- After one more line feed than there are before a line feed is just after that one. -/
theorem afterLineFeeds?_append_lineFeed (before after : List Char) :
    afterLineFeeds? (before ++ '\n' :: after) (before.count '\n' + 1) =
      some (byteLength before + 1) := by
  induction before with
  | nil => simp [afterLineFeeds?, afterLineFeeds?_zero, Char.utf8Size]
  | cons c rest ih =>
    rw [List.cons_append, afterLineFeeds?]
    by_cases hFeed : c = '\n'
    · rw [if_pos hFeed, hFeed, List.count_cons_self, ih, byteLength_cons]
      simp only [Option.map_some, Option.some.injEq]
      omega
    · rw [if_neg hFeed, List.count_cons_of_ne hFeed, ih, byteLength_cons]
      simp only [Option.map_some, Option.some.injEq]
      omega

/-- The byte offset at which the last line of a text starts: just after the last line feed. -/
def lastLineStart (text : List Char) : Nat := byteLength (text.rdropWhile (· != '\n'))

theorem lastLineStart_concat (text : List Char) (c : Char) :
    lastLineStart (text ++ [c]) =
      if c = '\n' then byteLength (text ++ [c]) else lastLineStart text := by
  rw [lastLineStart, List.rdropWhile_concat]
  by_cases hFeed : c = '\n'
  · simp [hFeed]
  · simp [hFeed, lastLineStart]

theorem lastLineStart_le (text : List Char) : lastLineStart text ≤ byteLength text := by
  obtain ⟨rest, hRest⟩ := List.rdropWhile_prefix (· != '\n') text
  have hLength := congrArg byteLength hRest
  rw [byteLength_append] at hLength
  rw [lastLineStart]
  omega

/-- The last line of an initial segment starts after as many line feeds as the segment has. -/
theorem afterLineFeeds?_count (before after : List Char) :
    afterLineFeeds? (before ++ after) (before.count '\n') = some (lastLineStart before) := by
  induction before using List.reverseRecOn generalizing after with
  | nil => exact afterLineFeeds?_zero _
  | append_singleton rest c ih =>
    rw [lastLineStart_concat, List.append_assoc, List.singleton_append]
    by_cases hFeed : c = '\n'
    · subst hFeed
      rw [if_pos rfl, List.count_append, List.count_singleton_self,
        afterLineFeeds?_append_lineFeed, byteLength_append]
      rfl
    · have hNone : [c].count '\n' = 0 := by
        rw [List.count_singleton, beq_false_of_ne hFeed]
        rfl
      rw [if_neg hFeed, List.count_append, hNone, Nat.add_zero]
      exact ih (c :: after)

theorem Position.after_concat (text : List Char) (c : Char) :
    after (text ++ [c]) = (after text).next c := by
  rw [after, List.foldl_append, after]
  rfl

/-- **The position after a text**: its line feeds and the bytes since the last of them. -/
theorem Position.after_eq (text : List Char) :
    after text = ⟨text.count '\n' + 1, byteLength text - lastLineStart text + 1⟩ := by
  induction text using List.reverseRecOn with
  | nil => rfl
  | append_singleton rest c ih =>
    have hLe := lastLineStart_le rest
    rw [after_concat, ih, next, lastLineStart_concat, List.count_append, List.count_singleton]
    by_cases hFeed : c = '\n'
    · simp [hFeed]
    · simp only [hFeed, byteLength_append, byteLength_cons, byteLength_nil, if_false, beq_iff_eq]
      congr 1
      omega

/-- A line and a column are those of a byte offset: the text can be cut there, the line counts the
line feeds before the cut, and the column the bytes from the start of the line, both from one. -/
structure IsPositionOf (text : List Char) (index : Nat) (position : Position) : Prop where
  line_eq : ∃ before after, text = before ++ after ∧ index = byteLength before ∧
    position.line = 1 + before.count '\n'
  column_pos : 1 ≤ position.column
  column_eq : ∃ start, afterLineFeeds? text (position.line - 1) = some start ∧
    start + (position.column - 1) = index

/-- **The position of a place** is its position. -/
theorem IsPlace.isPositionOf {text : List Char} {index : Nat} (h : IsPlace text index) :
    IsPositionOf text index (Position.ofOffset text index) := by
  obtain ⟨before, after, rfl, rfl⟩ := h
  have hLe := lastLineStart_le before
  rw [Position.ofOffset, before?_append, Option.getD_some, Position.after_eq]
  refine ⟨⟨before, after, rfl, rfl, Nat.add_comm _ _⟩, ?_, lastLineStart before, ?_, ?_⟩
  · exact Nat.le_add_left _ _
  · exact afterLineFeeds?_count before after
  · simp only
    omega

/-! ### Tokens -/

/-- The token after a place begins at a place. -/
theorem Token.isPlace_start {text : List Char} {offset : Nat} (h : IsPlace text offset) :
    IsPlace text (Token.atOffset text offset).start := by
  obtain ⟨before, after, rfl, rfl⟩ := h
  rw [atOffset, from?_append, Option.getD_some, first, ← byteLength_append]
  refine ⟨before ++ after.takeWhile isBlank, after.dropWhile isBlank, ?_, rfl⟩
  rw [List.append_assoc, List.takeWhile_append_dropWhile]

theorem isPlace_trimEnd (text : List Char) : IsPlace text (byteLength (trimEnd text)) := by
  refine ⟨trimEnd text, (text.reverse.takeWhile isBlank).reverse, ?_, rfl⟩
  rw [trimEnd, ← List.reverse_append, List.takeWhile_append_dropWhile, List.reverse_reverse]

end ScriptAnalysis.Text

namespace ScriptAnalysis.Syntax.Node

open Text (IsPlace)

/-! ### Nodes -/

/-- A node lies in a text: it starts and ends at places, in this order. -/
structure Fits (text : List Char) (node : Node) : Prop where
  start_le : node.start ≤ node.stop
  start : IsPlace text node.start
  stop : IsPlace text node.stop

instance (text : List Char) (node : Node) : Decidable (node.Fits text) :=
  decidable_of_iff
    (node.start ≤ node.stop ∧ IsPlace text node.start ∧ IsPlace text node.stop)
    ⟨fun ⟨hLe, hStart, hStop⟩ => ⟨hLe, hStart, hStop⟩,
      fun ⟨hLe, hStart, hStop⟩ => ⟨hLe, hStart, hStop⟩⟩

theorem Fits.exists_text? {text : List Char} {node : Node} (h : node.Fits text) :
    ∃ covered, node.text? text = some covered :=
  Text.exists_slice?_of_le h.start h.stop h.start_le

/-- The text of a node that lies in a text. -/
theorem Fits.exists_text {text : List Char} {node : Node} (h : node.Fits text) :
    ∃ before after, text = before ++ (node.text text ++ after) ∧
      node.start = Text.byteLength before ∧
      node.stop = Text.byteLength before + Text.byteLength (node.text text) := by
  obtain ⟨before, between, after, hText, hStart, hStop⟩ := h.start.exists_between h.stop h.start_le
  have hNode : node.text text = between := by
    rw [Node.text, Node.text?, hStart, hStop, hText, Text.slice?_append, Option.getD_some]
  rw [hNode]
  exact ⟨before, after, hText, hStart, hStop⟩

end ScriptAnalysis.Syntax.Node
