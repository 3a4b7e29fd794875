/-!
# Byte offsets into a text

A text is a list of characters, and places in it are counted in bytes of its UTF-8 form.

* `splitAt?_eq_some_iff`: a text splits at an offset exactly when the offset is the byte length of
  one of its initial segments; an offset inside a character or past the end splits nothing.
* `slice?_append`: a middle segment is the slice between its two ends.
-/

namespace ScriptAnalysis.Text

/-- The number of bytes of a text in UTF-8. -/
def byteLength : List Char → Nat
  | [] => 0
  | c :: rest => c.utf8Size + byteLength rest

@[simp]
theorem byteLength_nil : byteLength [] = 0 := rfl

@[simp]
theorem byteLength_cons (c : Char) (rest : List Char) :
    byteLength (c :: rest) = c.utf8Size + byteLength rest := rfl

@[simp]
theorem byteLength_append (a b : List Char) :
    byteLength (a ++ b) = byteLength a + byteLength b := by
  induction a with
  | nil => simp
  | cons c rest ih => simp [ih, Nat.add_assoc]

theorem byteLength_eq_zero {text : List Char} : byteLength text = 0 ↔ text = [] := by
  cases text with
  | nil => simp
  | cons c rest =>
    have := c.utf8Size_pos
    simp only [byteLength_cons, reduceCtorEq, iff_false]
    omega

/-- The two parts of a text at a byte offset; none when the offset lies inside a character or past
the end. -/
def splitAt? : List Char → Nat → Option (List Char × List Char)
  | text, 0 => some ([], text)
  | [], _ + 1 => none
  | c :: rest, n + 1 =>
    if c.utf8Size ≤ n + 1 then
      (splitAt? rest (n + 1 - c.utf8Size)).map fun parts => (c :: parts.1, parts.2)
    else none

/-- **A text splits at the ends of its initial segments** and nowhere else. -/
theorem splitAt?_eq_some_iff {text before after : List Char} {offset : Nat} :
    splitAt? text offset = some (before, after) ↔
      text = before ++ after ∧ offset = byteLength before := by
  induction text generalizing offset before with
  | nil =>
    cases offset with
    | zero =>
      simp only [splitAt?, Option.some.injEq, Prod.mk.injEq]
      constructor
      · rintro ⟨rfl, rfl⟩; simp
      · rintro ⟨h, _⟩
        obtain ⟨rfl, rfl⟩ := List.append_eq_nil_iff.1 h.symm
        exact ⟨rfl, rfl⟩
    | succ n =>
      simp only [splitAt?, reduceCtorEq, false_iff, not_and]
      intro h
      obtain ⟨rfl, rfl⟩ := List.append_eq_nil_iff.1 h.symm
      simp
  | cons c rest ih =>
    have hPos := c.utf8Size_pos
    cases offset with
    | zero =>
      simp only [splitAt?, Option.some.injEq, Prod.mk.injEq]
      constructor
      · rintro ⟨rfl, rfl⟩; simp
      · rintro ⟨h, hLength⟩
        obtain rfl := byteLength_eq_zero.1 hLength.symm
        exact ⟨rfl, h⟩
    | succ n =>
      simp only [splitAt?]
      split
      · rename_i hSize
        rw [Option.map_eq_some_iff]
        constructor
        · rintro ⟨⟨a, b⟩, hSplit, hParts⟩
          obtain ⟨rfl, rfl⟩ := Prod.mk.inj hParts
          obtain ⟨rfl, hLength⟩ := ih.1 hSplit
          refine ⟨rfl, ?_⟩
          rw [byteLength_cons, ← hLength]
          omega
        · rintro ⟨hText, hLength⟩
          cases before with
          | nil => simp at hLength
          | cons d before =>
            obtain ⟨rfl, hRest⟩ := List.cons.inj hText
            simp only [byteLength_cons] at hLength
            exact ⟨(before, after), ih.2 ⟨hRest, by omega⟩, rfl⟩
      · rename_i hSize
        simp only [reduceCtorEq, false_iff, not_and]
        intro hText hLength
        cases before with
        | nil => simp at hLength
        | cons d before =>
          obtain ⟨rfl, _⟩ := List.cons.inj hText
          simp only [byteLength_cons] at hLength
          omega

/-- The text before a byte offset. -/
def before? (text : List Char) (offset : Nat) : Option (List Char) :=
  (splitAt? text offset).map Prod.fst

/-- The text from a byte offset on. -/
def from? (text : List Char) (offset : Nat) : Option (List Char) :=
  (splitAt? text offset).map Prod.snd

/-- The text between two byte offsets. -/
def slice? (text : List Char) (start stop : Nat) : Option (List Char) :=
  if start ≤ stop then (before? text stop).bind (from? · start) else none

@[simp]
theorem before?_append (a b : List Char) : before? (a ++ b) (byteLength a) = some a := by
  simp [before?, splitAt?_eq_some_iff.2 ⟨rfl, rfl⟩]

@[simp]
theorem from?_append (a b : List Char) : from? (a ++ b) (byteLength a) = some b := by
  simp [from?, splitAt?_eq_some_iff.2 ⟨rfl, rfl⟩]

/-- A middle segment is the slice between its two ends. -/
theorem slice?_append (a b c : List Char) :
    slice? (a ++ (b ++ c)) (byteLength a) (byteLength a + byteLength b) = some b := by
  have h := before?_append (a ++ b) c
  rw [byteLength_append, List.append_assoc] at h
  simp [slice?, h]

end ScriptAnalysis.Text
