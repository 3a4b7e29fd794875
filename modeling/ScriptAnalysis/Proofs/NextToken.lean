import ScriptAnalysis.Proofs.Places

/-!
# Where the next token starts

From a place of a text the next token starts behind the blanks that stand there.

* `Token.start_mono`: the further the place, the further the token.
* `Token.start_of_ink`: where no blank stands, it starts at once.
* `Token.start_of_contentEnd`: behind the last token there is only the end of the text.
* `Token.stop_le_or_blanks`: no token crosses a character that is neither blank nor of an identifier.
-/

namespace ScriptAnalysis.Text

/-- Whether a blank stands at a byte offset. -/
def isBlankAt (text : List Char) (offset : Nat) : Bool :=
  ((from? text offset).getD []).head?.any isBlank

theorem isBlankAt_append (before after : List Char) :
    isBlankAt (before ++ after) (byteLength before) = after.head?.any isBlank := by
  rw [isBlankAt, from?_append, Option.getD_some]

theorem byteLength_takeWhile_le (p : Char → Bool) (text : List Char) :
    byteLength (text.takeWhile p) ≤ byteLength text := by
  have hLength := congrArg byteLength (List.takeWhile_append_dropWhile (p := p) (l := text))
  rw [byteLength_append] at hLength
  omega

namespace Token

theorem start_append (before after : List Char) :
    (atOffset (before ++ after) (byteLength before)).start =
      byteLength before + byteLength (after.takeWhile isBlank) := by
  rw [atOffset, from?_append, Option.getD_some, first]

theorem le_start (text : List Char) (offset : Nat) : offset ≤ (atOffset text offset).start :=
  Nat.le_add_right _ _

variable {text : List Char} {first second : Nat}

/-- From a place on, only blanks are passed over: up to a later place, or up to the token that
follows that one too. -/
theorem start_le_or_eq (hFirst : IsPlace text first) (hSecond : IsPlace text second)
    (hLe : first ≤ second) :
    (atOffset text first).start ≤ second ∨
      (atOffset text first).start = (atOffset text second).start := by
  obtain ⟨before, between, after, rfl, rfl, rfl⟩ := hFirst.exists_between hSecond hLe
  have hStart := start_append (before ++ between) after
  rw [byteLength_append, List.append_assoc] at hStart
  rw [start_append, hStart, List.takeWhile_append]
  split
  · rename_i hAll
    have hBlanks := congrArg byteLength
      ((List.takeWhile_prefix isBlank).eq_of_length hAll)
    right
    rw [byteLength_append]
    omega
  · have hShort := byteLength_takeWhile_le isBlank between
    left
    omega

/-- **The further the place,** the further the token. -/
theorem start_mono (hFirst : IsPlace text first) (hSecond : IsPlace text second)
    (hLe : first ≤ second) : (atOffset text first).start ≤ (atOffset text second).start := by
  have hAfter := le_start text second
  rcases start_le_or_eq hFirst hSecond hLe with hStart | hStart
  · omega
  · omega

/-- Where no blank stands, the token starts at once. -/
theorem start_of_ink {offset : Nat} (hPlace : IsPlace text offset)
    (hInk : isBlankAt text offset = false) : (atOffset text offset).start = offset := by
  obtain ⟨before, after, rfl, rfl⟩ := hPlace
  rw [isBlankAt_append] at hInk
  rw [start_append]
  cases after with
  | nil => rfl
  | cons c rest =>
    have hBlank : isBlank c = false := hInk
    rw [List.takeWhile_cons_of_neg (by rw [hBlank]; exact Bool.false_ne_true)]
    rfl

/-- **Behind the last token** there is only the end of the text. -/
theorem start_of_contentEnd (text : List Char) :
    (atOffset text (byteLength (trimEnd text))).start = byteLength text := by
  have hText : text = trimEnd text ++ (text.reverse.takeWhile isBlank).reverse := by
    rw [trimEnd, ← List.reverse_append, List.takeWhile_append_dropWhile, List.reverse_reverse]
  have hBlanks : (text.reverse.takeWhile isBlank).reverse.takeWhile isBlank =
      (text.reverse.takeWhile isBlank).reverse := by
    refine List.takeWhile_eq_self_iff.mpr fun c hMem => ?_
    exact List.mem_takeWhile_imp (List.mem_reverse.mp hMem)
  have hStart := start_append (trimEnd text) (text.reverse.takeWhile isBlank).reverse
  rw [← hText, hBlanks, ← byteLength_append, ← hText] at hStart
  exact hStart

/-! ### How far a token reaches -/

/-- **Behind blanks** the token is what the rest of the text begins with. -/
theorem atOffset_of_blanks {before blanks rest : List Char} {c : Char}
    (hBlanks : ∀ blank ∈ blanks, isBlank blank = true) (hInk : isBlank c = false) :
    atOffset (before ++ (blanks ++ c :: rest)) (byteLength before) =
      ⟨byteLength before + byteLength blanks, munch (c :: rest)⟩ := by
  have hNot : ¬isBlank c = true := by
    rw [hInk]
    exact Bool.false_ne_true
  rw [atOffset, from?_append, Option.getD_some, first, List.takeWhile_append_of_pos hBlanks,
    List.dropWhile_append_of_pos hBlanks, List.takeWhile_cons_of_neg hNot,
    List.dropWhile_cons_of_neg hNot, List.append_nil]

/-- A text that is not blank has a first character that is not. -/
theorem exists_ink : ∀ {text : List Char}, text.all isBlank = false →
    ∃ blanks c rest, text = blanks ++ c :: rest ∧ (∀ blank ∈ blanks, isBlank blank = true) ∧
      isBlank c = false
  | [], h => by cases h
  | c :: text, h => by
    cases hBlank : isBlank c with
    | false => exact ⟨[], c, text, rfl, fun _ hNone => absurd hNone List.not_mem_nil, hBlank⟩
    | true =>
      rw [List.all_cons, hBlank, Bool.true_and] at h
      obtain ⟨blanks, d, rest, rfl, hBlanks, hInk⟩ := exists_ink h
      exact ⟨c :: blanks, d, rest, rfl, List.forall_mem_cons.mpr ⟨hBlank, hBlanks⟩, hInk⟩

/-- **A token ends** where no identifier goes on. -/
theorem byteLength_munch_le {c : Char} {rest after : List Char}
    (hEdge : ∀ d ∈ after.head?, continuesIdentifier d = false) :
    byteLength (munch (c :: (rest ++ after))) ≤ byteLength (c :: rest) := by
  have hStops : after.takeWhile continuesIdentifier = [] := by
    cases after with
    | nil => rfl
    | cons d _ =>
      refine List.takeWhile_cons_of_neg ?_
      rw [hEdge d rfl]
      exact Bool.false_ne_true
  rw [munch]
  split
  · rw [← List.cons_append, List.takeWhile_append, hStops, List.append_nil]
    split
    · exact Nat.le_refl _
    · exact byteLength_takeWhile_le _ _
  · rw [byteLength_cons, byteLength_cons, byteLength_nil]
    omega

/-- **No token crosses** a character that is neither blank nor of an identifier: looked for in front
of it, a token starts and ends there, or else there are only blanks up to the character. -/
theorem stop_le_or_blanks (before between : List Char) {rest : List Char} {c : Char}
    (hInk : isBlank c = false) (hEdge : continuesIdentifier c = false) :
    let token := atOffset (before ++ (between ++ c :: rest)) (byteLength before)
    let place := byteLength before + byteLength between
    (between.all isBlank = false ∧ token.start < place ∧
      token.start + byteLength token.text ≤ place) ∨
    (between.all isBlank = true ∧ token = ⟨place, munch (c :: rest)⟩) := by
  intro token place
  cases hAll : between.all isBlank with
  | true => exact .inr ⟨rfl, atOffset_of_blanks (List.all_eq_true.mp hAll) hInk⟩
  | false =>
    obtain ⟨blanks, d, part, rfl, hBlanks, hFirst⟩ := exists_ink hAll
    have hToken : token =
        ⟨byteLength before + byteLength blanks, munch (d :: (part ++ c :: rest))⟩ := by
      refine Eq.trans ?_ (atOffset_of_blanks hBlanks hFirst)
      exact congrArg (fun after => atOffset (before ++ after) (byteLength before))
        (List.append_assoc blanks (d :: part) (c :: rest))
    have hMunch : byteLength (munch (d :: (part ++ c :: rest))) ≤ byteLength (d :: part) :=
      byteLength_munch_le fun _ hHead => Option.some.inj hHead ▸ hEdge
    have hPlace : place = byteLength before + (byteLength blanks + byteLength (d :: part)) :=
      congrArg (byteLength before + ·) (byteLength_append _ _)
    have hPositive : 0 < byteLength (d :: part) :=
      Nat.pos_of_ne_zero fun hZero => List.cons_ne_nil _ _ (byteLength_eq_zero.mp hZero)
    rw [hToken, hPlace]
    refine .inl ⟨rfl, ?_, ?_⟩
    · simp only
      omega
    · simp only
      omega

end Token

end ScriptAnalysis.Text
