import ScriptAnalysis.Proofs.Places
import ScriptAnalysis.SyntaxTree

/-!
# The order of positions

Reading one more character of a text moves a position on: to the next line, or further in the same one.
So positions are in the order of their places, and no two places have the same.  The line of a place is
one of the lines of the text, unless nothing is left to be read of a text that ends in a line feed or is
empty: then a line has begun that the text does not have.

* `Position.precedes_next`, `Position.precedes_foldl`: a character, and every text, moves a position on.
* `Position.ofOffset_precedes`: a later place has a later position.
* `length_lines`: how many lines a text has.
* `count_lt_lineCount`: a place that something follows is in one of them.
* `SyntaxTree.order_of_positions`: positions order and identify the places, on the lines of the text.
-/

namespace ScriptAnalysis.Text

namespace Position

/-- A position is before another one: on an earlier line, or in an earlier column of the same one. -/
def Precedes (first second : Position) : Prop :=
  first.line < second.line ∨ first.line = second.line ∧ first.column < second.column

instance (first second : Position) : Decidable (first.Precedes second) :=
  inferInstanceAs (Decidable (_ ∨ _))

theorem Precedes.trans {first second third : Position} (h : first.Precedes second)
    (hNext : second.Precedes third) : first.Precedes third := by
  rw [Precedes] at h hNext ⊢
  omega

theorem Precedes.ne {first second : Position} (h : first.Precedes second) : first ≠ second := by
  rintro rfl
  rw [Precedes] at h
  omega

/-- **A character** moves a position on. -/
theorem precedes_next (position : Position) (c : Char) : position.Precedes (position.next c) := by
  rw [next]
  split
  · exact .inl (Nat.lt_succ_self _)
  · exact .inr ⟨rfl, Nat.lt_add_of_pos_right c.utf8Size_pos⟩

/-- **A text** that is not empty moves a position on. -/
theorem precedes_foldl (c : Char) (text : List Char) (position : Position) :
    position.Precedes ((c :: text).foldl next position) := by
  induction text generalizing c position with
  | nil => exact precedes_next position c
  | cons d rest ih => exact (precedes_next position c).trans (ih d (position.next c))

variable {text : List Char} {first second : Nat}

/-- **A later place** has a later position. -/
theorem ofOffset_precedes (hFirst : IsPlace text first) (hSecond : IsPlace text second)
    (hLt : first < second) : (ofOffset text first).Precedes (ofOffset text second) := by
  obtain ⟨before, between, after, rfl, rfl, rfl⟩ := hFirst.exists_between hSecond hLt.le
  have hStop := before?_append (before ++ between) after
  rw [byteLength_append, List.append_assoc] at hStop
  rw [ofOffset, ofOffset, before?_append, hStop, Option.getD_some, Option.getD_some,
    Position.after, Position.after, List.foldl_append]
  cases between with
  | nil => exact absurd hLt (Nat.lt_irrefl _)
  | cons c rest => exact precedes_foldl c rest _

/-- **Places with the same position** are the same. -/
theorem ofOffset_injOn (hFirst : IsPlace text first) (hSecond : IsPlace text second)
    (hSame : ofOffset text first = ofOffset text second) : first = second := by
  rcases Nat.lt_trichotomy first second with hLt | hEq | hLt
  · exact absurd hSame (ofOffset_precedes hFirst hSecond hLt).ne
  · exact hEq
  · exact absurd hSame.symm (ofOffset_precedes hSecond hFirst hLt).ne

/-- A line feed is further on than all of its line, and not yet on the next. -/
example : (ofOffset ['a', '\n', 'b'] 1).Precedes (ofOffset ['a', '\n', 'b'] 2) := by decide

end Position

/-! ### The lines of a text -/

/-- No line is begun at the end of a text just when it is empty or ends in a line feed. -/
theorem all_getLast?_iff {text : List Char} :
    text.getLast?.all (· == '\n') = true ↔ text = [] ∨ text.getLast? = some '\n' := by
  cases hLast : text.getLast? with
  | none => simp [List.getLast?_eq_none_iff.mp hLast]
  | some c =>
    have hFull : text ≠ [] := by
      rintro rfl
      cases hLast
    simp [hFull]

/-- **Wherever a text goes on,** or has a line begun, the line feeds so far are fewer than its lines. -/
theorem count_lt_lineCount {before after : List Char}
    (h : after = [] → ¬(before = [] ∨ before.getLast? = some '\n')) :
    before.count '\n' < lineCount (before ++ after) := by
  rw [lineCount, List.count_append]
  by_cases hFeed : '\n' ∈ after
  · have hPositive := List.count_pos_iff.mpr hFeed
    omega
  · -- No line feed follows, so the text ends in a line that has no line feed of its own.
    have hOpen : ¬(before ++ after).getLast?.all (· == '\n') = true := by
      rw [all_getLast?_iff]
      cases after with
      | nil =>
        rw [List.append_nil]
        exact h rfl
      | cons c rest =>
        rw [List.getLast?_append_cons]
        rintro (hNil | hLast)
        · exact List.append_ne_nil_of_right_ne_nil _ (List.cons_ne_nil c rest) hNil
        · exact hFeed (List.mem_of_getLast? hLast)
    rw [if_neg hOpen]
    omega

/-- The lines of a text.  A line feed ends a line and is no part of it; what follows the last line feed
is a line of its own unless it is empty. -/
def lines : List Char → List (List Char)
  | [] => []
  | c :: rest =>
    if c = '\n' then [] :: lines rest
    else
      match lines rest with
      | [] => [[c]]
      | line :: further => (c :: line) :: further

theorem length_lines_cons {c : Char} (hInk : c ≠ '\n') (rest : List Char) :
    (lines (c :: rest)).length = max 1 (lines rest).length := by
  rw [lines, if_neg hInk]
  split
  · rename_i hNone
    rw [hNone]
    rfl
  · rename_i line further hLines
    rw [hLines, List.length_cons, List.length_cons]
    omega

theorem lineCount_cons_lineFeed (rest : List Char) :
    lineCount ('\n' :: rest) = lineCount rest + 1 := by
  cases rest with
  | nil => rfl
  | cons d rest =>
    rw [lineCount, List.count_cons_self, List.getLast?_cons_cons, lineCount]
    omega

theorem lineCount_cons {c : Char} (hInk : c ≠ '\n') (rest : List Char) :
    lineCount (c :: rest) = max 1 (lineCount rest) := by
  cases rest with
  | nil => simp [lineCount, hInk]
  | cons d rest =>
    have hPositive : 0 < lineCount (d :: rest) :=
      @count_lt_lineCount [] (d :: rest) fun hNil => absurd hNil (List.cons_ne_nil d rest)
    have hSame : lineCount (c :: d :: rest) = lineCount (d :: rest) := by
      rw [lineCount, List.count_cons_of_ne hInk, List.getLast?_cons_cons, lineCount]
    omega

/-- **The line count** of a text is the number of its lines. -/
theorem length_lines (text : List Char) : (lines text).length = lineCount text := by
  induction text with
  | nil => rfl
  | cons c rest ih =>
    by_cases hFeed : c = '\n'
    · rw [hFeed, lines, if_pos rfl, List.length_cons, ih, lineCount_cons_lineFeed]
    · rw [length_lines_cons hFeed, ih, lineCount_cons hFeed]

example : lines ['a', '\n', '\n', 'b', '\n'] = [['a'], [], ['b']] := by decide

/-! ### The line of a place -/

namespace Position

theorem line_append (before after : List Char) :
    (ofOffset (before ++ after) (byteLength before)).line = before.count '\n' + 1 := by
  rw [ofOffset, before?_append, Option.getD_some, after_eq]

variable {text : List Char}

/-- **Where a text ends** behind a line feed, or is empty, a line has begun that it does not have. -/
theorem line_of_end (h : text = [] ∨ text.getLast? = some '\n') :
    (ofOffset text (byteLength text)).line = lineCount text + 1 := by
  have hLine := line_append text []
  rw [List.append_nil] at hLine
  rw [hLine, lineCount, if_pos (all_getLast?_iff.mpr h), Nat.add_zero]

/-- **Everywhere else** the line of a place is one of the text's lines. -/
theorem line_le_lineCount {offset : Nat} (hPlace : IsPlace text offset)
    (h : ¬(offset = byteLength text ∧ (text = [] ∨ text.getLast? = some '\n'))) :
    (ofOffset text offset).line ≤ lineCount text := by
  obtain ⟨before, rest, rfl, rfl⟩ := hPlace
  rw [line_append]
  refine count_lt_lineCount fun hNil hClosed => ?_
  rw [hNil, List.append_nil] at h
  exact h ⟨rfl, hClosed⟩

end Position

end ScriptAnalysis.Text

namespace ScriptAnalysis

open Text (IsPlace Position byteLength)

/-- **Positions order and identify the places of a text.**  Of two places the later one has the later
position, so the line and the column determine the place.  The line count is the number of lines, and
the line of a place is one of them, but for the end of a text that is empty or ends in a line feed: its
line is the one after the last. -/
theorem SyntaxTree.order_of_positions (tree : SyntaxTree) :
    let position := Position.ofOffset tree.text
    (∀ first second, IsPlace tree.text first → IsPlace tree.text second → first < second →
      (position first).Precedes (position second)) ∧
    (∀ first second, IsPlace tree.text first → IsPlace tree.text second →
      position first = position second → first = second) ∧
    tree.lineCount = (Text.lines tree.text).length ∧
    ∀ offset, IsPlace tree.text offset →
      if offset = byteLength tree.text ∧ (tree.text = [] ∨ tree.text.getLast? = some '\n') then
        (position offset).line = tree.lineCount + 1
      else (position offset).line ≤ tree.lineCount := by
  intro position
  refine ⟨fun first second => Position.ofOffset_precedes, fun first second => Position.ofOffset_injOn,
    (Text.length_lines tree.text).symm, fun offset hPlace => ?_⟩
  split
  · rename_i hEnd
    rw [hEnd.1]
    exact Position.line_of_end hEnd.2
  · rename_i hBefore
    exact Position.line_le_lineCount hPlace hBefore

/-- A text of three lines, the second of them empty, that ends in a line feed. -/
def threeLines : SyntaxTree where
  code := "é;\n\nb\n"
  root := .mk { kind := "program", start := 0, stop := 7 } []
  grammar := .javaScript
  errors := []

/-- The first line feed is in the fourth column of the first line, behind a letter of two bytes; the end
of the text is on a fourth line, of which the text has no more than the beginning. -/
theorem order_of_positions_threeLines :
    let position := Position.ofOffset threeLines.text
    IsPlace threeLines.text 3 ∧ IsPlace threeLines.text 7 ∧ position 3 = ⟨1, 4⟩ ∧
    position 7 = ⟨4, 1⟩ ∧ (position 3).Precedes (position 7) ∧ threeLines.lineCount = 3 ∧
    (position 7).line = threeLines.lineCount + 1 ∧
    (∀ offset, IsPlace threeLines.text offset → offset ≠ 7 → (position offset).line ≤ 3) ∧
    ∀ offset, IsPlace threeLines.text offset → position offset = ⟨3, 1⟩ → offset = 5 := by
  intro position
  have hFeed : IsPlace threeLines.text 3 := by decide +kernel
  have hLast : IsPlace threeLines.text 5 := by decide +kernel
  have hEnd : IsPlace threeLines.text 7 := by decide +kernel
  have hLength : byteLength threeLines.text = 7 := by decide +kernel
  have hCount : threeLines.lineCount = 3 := by decide +kernel
  obtain ⟨hOrder, hSame, -, hLine⟩ := threeLines.order_of_positions
  have hBeyond := hLine 7 hEnd
  rw [if_pos ⟨hLength.symm, .inr (by decide +kernel)⟩] at hBeyond
  refine ⟨hFeed, hEnd, by decide +kernel, by decide +kernel, hOrder 3 7 hFeed hEnd (by decide),
    hCount, hBeyond, fun offset hPlace hOther => ?_, fun offset hPlace hThird => ?_⟩
  · have hWithin := hLine offset hPlace
    rw [hLength, if_neg fun h => hOther h.1, hCount] at hWithin
    exact hWithin
  · refine hSame offset 5 hPlace hLast (hThird.trans ?_)
    decide +kernel

end ScriptAnalysis
