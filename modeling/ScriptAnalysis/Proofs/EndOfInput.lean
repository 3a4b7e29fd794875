import ScriptAnalysis.Proofs.Locations
import ScriptAnalysis.Proofs.TokenKinds

/-!
# Faults at the end of the input

A text may stop too soon, and it may go on with blanks where it is complete.  The blanks that a text
ends in are cut off to find where its last token stops, and the blanks at a place are passed over to
find the next token.  No blank belongs to an identifier, so blanks that are put behind a text change
no token of it, only where its end is.

* `continuesIdentifier_of_isBlank`: no blank belongs to an identifier.
* `Token.text_eq_nil_iff`: the token after a place is empty just at the end of the text.
* `Token.atOffset_append_blanks`: blanks behind a text move the end and no other token.
* `faultIndex_append_blanks`: and a fault is looked for from where it was.
* `recoveryError_of_end`: a fault is described as the end of the input just where it is at the end,
  a text that breaks off has its fault there, and blanks behind a text move no other fault.
-/

namespace ScriptAnalysis

open Syntax (Node)
open Text (IsPlace Token byteLength isBlank trimEnd)

namespace Text

/-! ### Blanks behind a text -/

/-- **No blank** belongs to an identifier. -/
theorem continuesIdentifier_of_isBlank {c : Char} (h : isBlank c = true) :
    continuesIdentifier c = false := by
  obtain ⟨range, hRange, hLow, hHigh⟩ := Ranges.exists_mem_of_contains h
  have hNone : ∀ range ∈ blankRanges, ∀ code ∈ List.range' range.1 (range.2 + 1 - range.1),
      alphabeticRanges.contains code = false ∧ numericRanges.contains code = false ∧
        code ≠ '_'.toNat ∧ code ≠ '$'.toNat := by decide +kernel
  obtain ⟨hAlphabetic, hNumeric, hLine, hDollar⟩ :=
    hNone range hRange c.toNat (List.mem_range'_1.mpr ⟨hLow, by omega⟩)
  have hOther : ∀ d : Char, c.toNat ≠ d.toNat → (c == d) = false :=
    fun d hCode => beq_false_of_ne fun hIs => hCode (congrArg Char.toNat hIs)
  rw [continuesIdentifier, isAlphabetic, isNumeric, hAlphabetic, hNumeric, hOther _ hLine,
    hOther _ hDollar]
  rfl

/-- Blanks behind a text are cut off with those that it ends in. -/
theorem trimEnd_append_blanks (text : List Char) {blanks : List Char}
    (h : ∀ c ∈ blanks, isBlank c = true) : trimEnd (text ++ blanks) = trimEnd text := by
  have hReverse : ∀ c ∈ blanks.reverse, isBlank c = true :=
    fun c hMem => h c (List.mem_reverse.mp hMem)
  rw [trimEnd, List.reverse_append, List.dropWhile_append_of_pos hReverse, trimEnd]

/-- A slice does not depend on the text behind it. -/
theorem slice?_of_append {text part : List Char} {first second : Nat}
    (h : slice? text first second = some part) (more : List Char) :
    slice? (text ++ more) first second = some part := by
  obtain ⟨before, after, rfl, rfl, rfl⟩ := of_slice? h
  rw [List.append_assoc, List.append_assoc]
  exact slice?_append before part (after ++ more)

/-- A position does not depend on the text behind it. -/
theorem Position.ofOffset_append {text : List Char} {offset : Nat} (h : IsPlace text offset)
    (more : List Char) : ofOffset (text ++ more) offset = ofOffset text offset := by
  obtain ⟨before, after, rfl, rfl⟩ := h
  rw [List.append_assoc, ofOffset, before?_append, ofOffset, before?_append]
  rfl

/-! ### The token at the end -/

namespace Token

/-- What an identifier or a number begins with can stand inside one. -/
theorem continuesIdentifier_of_begins {c : Char} (h : (beginsIdentifier c || c.isDigit) = true) :
    continuesIdentifier c = true := by
  rw [continuesIdentifier]
  rcases Bool.or_eq_true_iff.mp h with hBegins | hDigit
  · rw [beginsIdentifier] at hBegins
    cases hAlphabetic : isAlphabetic c with
    | true => simp
    | false => simpa [hAlphabetic, or_assoc] using Or.inr hBegins
  · obtain ⟨hLow, hHigh⟩ : 0x30 ≤ c.toNat ∧ c.toNat ≤ 0x39 := Char.isDigit_iff_toNat.mp hDigit
    have hNumeric : isNumeric c = true := by
      rw [isNumeric, numericRanges, Ranges.contains, if_neg (by omega), decide_eq_true hHigh]
      rfl
    simp [hNumeric]

/-- There is a token wherever a text goes on. -/
theorem munch_eq_nil_iff {text : List Char} : munch text = [] ↔ text = [] := by
  cases text with
  | nil => exact Iff.rfl
  | cons c rest =>
    refine iff_of_false ?_ (List.cons_ne_nil c rest)
    rw [munch]
    split
    · rename_i hBegins
      rw [List.takeWhile_cons_of_pos (continuesIdentifier_of_begins hBegins)]
      exact List.cons_ne_nil _ _
    · exact List.cons_ne_nil _ _

/-- **No token** reaches into the blanks behind a text. -/
theorem munch_append_blanks (c : Char) (rest : List Char) {blanks : List Char}
    (h : ∀ blank ∈ blanks, isBlank blank = true) :
    munch (c :: rest ++ blanks) = munch (c :: rest) := by
  have hStops : blanks.takeWhile continuesIdentifier = [] := by
    cases blanks with
    | nil => rfl
    | cons blank _ =>
      refine List.takeWhile_cons_of_neg ?_
      rw [continuesIdentifier_of_isBlank (h blank List.mem_cons_self)]
      exact Bool.false_ne_true
  rw [List.cons_append, munch, munch]
  split
  · rw [← List.cons_append, List.takeWhile_append, hStops, List.append_nil]
    split
    · rename_i hAll
      exact ((List.takeWhile_prefix _).eq_of_length hAll).symm
    · rfl
  · rfl

/-- Where only blanks are left, the token is the end of the text. -/
theorem atOffset_of_end (before : List Char) {blanks : List Char}
    (h : ∀ blank ∈ blanks, isBlank blank = true) :
    atOffset (before ++ blanks) (byteLength before) = ⟨byteLength (before ++ blanks), []⟩ := by
  have hNone : blanks.dropWhile isBlank = [] := List.dropWhile_eq_nil_iff.mpr h
  have hAll : blanks.takeWhile isBlank = blanks := List.takeWhile_eq_self_iff.mpr h
  rw [atOffset, from?_append, Option.getD_some, first, hNone, hAll, byteLength_append]
  rfl

/-- **From a place on** there are only blanks up to the end of the text, or else a character that is
none behind them. -/
theorem end_or_ink {text : List Char} {offset : Nat} (h : IsPlace text offset) :
    ∃ before blanks, (∀ blank ∈ blanks, isBlank blank = true) ∧ offset = byteLength before ∧
      (text = before ++ blanks ∨
        ∃ c rest, isBlank c = false ∧ text = before ++ (blanks ++ c :: rest)) := by
  obtain ⟨before, after, rfl, rfl⟩ := h
  cases hAll : after.all isBlank with
  | true => exact ⟨before, after, List.all_eq_true.mp hAll, rfl, .inl rfl⟩
  | false =>
    obtain ⟨blanks, c, rest, rfl, hBlanks, hInk⟩ := exists_ink hAll
    exact ⟨before, blanks, hBlanks, rfl, .inr ⟨c, rest, hInk, rfl⟩⟩

/-- **The token after a place** is empty just at the end of the text. -/
theorem text_eq_nil_iff {text : List Char} {offset : Nat} (h : IsPlace text offset) :
    (atOffset text offset).text = [] ↔ (atOffset text offset).start = byteLength text := by
  obtain ⟨before, blanks, hBlanks, rfl, rfl | ⟨c, rest, hInk, rfl⟩⟩ := end_or_ink h
  · rw [atOffset_of_end before hBlanks]
    exact iff_of_true rfl rfl
  · rw [atOffset_of_blanks hBlanks hInk]
    have hPositive := c.utf8Size_pos
    refine iff_of_false (fun hNil => List.cons_ne_nil c rest (munch_eq_nil_iff.mp hNil)) ?_
    simp only [byteLength_append, byteLength_cons]
    omega

/-- **Blanks behind a text** move its end, and no other token. -/
theorem atOffset_append_blanks {text : List Char} {offset : Nat} (h : IsPlace text offset)
    {blanks : List Char} (hBlanks : ∀ blank ∈ blanks, isBlank blank = true) :
    atOffset (text ++ blanks) offset =
      if (atOffset text offset).text = [] then ⟨byteLength (text ++ blanks), []⟩
      else atOffset text offset := by
  obtain ⟨before, passed, hPassed, rfl, rfl | ⟨c, rest, hInk, rfl⟩⟩ := end_or_ink h
  · have hAll : ∀ blank ∈ passed ++ blanks, isBlank blank = true :=
      List.forall_mem_append.mpr ⟨hPassed, hBlanks⟩
    rw [atOffset_of_end before hPassed, if_pos rfl, List.append_assoc, atOffset_of_end before hAll]
  · have hText : before ++ (passed ++ c :: rest) ++ blanks =
        before ++ (passed ++ c :: (rest ++ blanks)) := by
      simp only [List.append_assoc, List.cons_append]
    have hToken := munch_append_blanks c rest hBlanks
    rw [List.cons_append] at hToken
    rw [atOffset_of_blanks hPassed hInk, hText, atOffset_of_blanks hPassed hInk, hToken, if_neg]
    exact fun hNil => List.cons_ne_nil c rest (munch_eq_nil_iff.mp hNil)

/-- The end of the input is described as no token is. -/
theorem describe_eq_end_iff {token : List Char} :
    describe token = "Unexpected end of input" ↔ token = [] :=
  @describe_eq_wording_iff .ending token

end Token

end Text

/-- A node that lies in a text covers the same of it, whatever is put behind. -/
theorem Syntax.Node.Fits.text_append {text : List Char} {node : Node} (h : node.Fits text)
    (more : List Char) : node.text (text ++ more) = node.text text := by
  obtain ⟨covered, hText⟩ := h.exists_text?
  have hMore : node.text? (text ++ more) = some covered := Text.slice?_of_append hText more
  rw [Node.text, hMore, Node.text, hText]

theorem BuildError.atOffset_append {text : List Char} {index : Nat} (h : IsPlace text index)
    (more : List Char) (description : String) :
    atOffset (text ++ more) index description = atOffset text index description := by
  rw [atOffset, atOffset, Text.Position.ofOffset_append h more]

namespace Rules

variable {text blanks : List Char}

/-! ### Where a fault is looked for -/

/-- A leaf calls for more if the parser made it up, or if it is a token that closes nothing. -/
theorem callsForMore_iff {leaf : Node} :
    callsForMore text leaf = true ↔ leaf.isMissing = true ∨
      leaf.isNamed = false ∧ String.ofList (leaf.text text) ∉ closingTokens := by
  rw [callsForMore]
  cases leaf.isMissing <;> cases leaf.isNamed <;> simp

theorem callsForMore_append {leaf : Node} (h : leaf.Fits text) (more : List Char) :
    callsForMore (text ++ more) leaf = callsForMore text leaf := by
  rw [callsForMore, callsForMore, h.text_append more]

theorem isSound_append {node : Node} (h : node.Fits text) (more : List Char) :
    isSound (text ++ more) node = isSound text node := by
  rw [isSound, isSound, h.text_append more]

theorem contentEnd_append_blanks (text : List Char) (h : ∀ c ∈ blanks, isBlank c = true) :
    contentEnd (text ++ blanks) = contentEnd text := by
  rw [contentEnd, Text.trimEnd_append_blanks text h, contentEnd]

/-- **A fault is looked for** from where it was before blanks were put behind the text. -/
theorem faultIndex_append_blanks {node : Node} (hFits : ∀ part ∈ node.nodes, part.Fits text)
    (h : ∀ c ∈ blanks, isBlank c = true) :
    faultIndex (text ++ blanks) node = faultIndex text node := by
  have hSelf := hFits node node.mem_nodes_self
  have hLeaf := hFits node.lastLeaf (Node.lastLeaf_mem_nodes node node.mem_nodes_self)
  have hChild : ∀ child ∈ node.children, child.Fits text :=
    fun child hMem => hFits child (Node.mem_nodes_of_child node.mem_nodes_self hMem)
  have hEmpty : (Token.atOffset (text ++ blanks) node.stop).text.isEmpty =
      (Token.atOffset text node.stop).text.isEmpty := by
    rw [Token.atOffset_append_blanks hSelf.stop h]
    split
    · rename_i hNil
      rw [hNil]
    · rfl
  rw [faultIndex, faultIndex, contentEnd_append_blanks text h, callsForMore_append hLeaf]
  generalize node.children = children at hChild
  cases children with
  | nil => rfl
  | cons first rest =>
    have hFirst := isSound_append (hChild first List.mem_cons_self) blanks
    cases rest with
    | nil => simp only [hFirst, hEmpty]
    | cons second rest => simp only [hFirst]

/-! ### Faults at the end -/

/-- An error at a token is described as the end of the input just if there is no token. -/
theorem describes_end_iff (text : List Char) (index : Nat) :
    (errorAtToken text index).description? = some "Unexpected end of input" ↔
      (Token.atOffset text index).text = [] := by
  rw [errorAtToken, BuildError.atOffset, BuildError.description?, Option.some.injEq,
    Token.describe_eq_end_iff]

/-- **An error behind a place** is described as the end of the input just at the end. -/
theorem errorAtToken_end_iff {index : Nat} (h : IsPlace text index) :
    (errorAtToken text index).description? = some "Unexpected end of input" ↔
      (errorAtToken text index).index? = some (byteLength text) := by
  rw [describes_end_iff, Token.text_eq_nil_iff h]
  exact Option.some_inj.symm

/-- **Blanks behind a text** move an error at its end to the new end, and no other one. -/
theorem errorAtToken_append_blanks {index : Nat} (hPlace : IsPlace text index)
    (h : ∀ c ∈ blanks, isBlank c = true) :
    errorAtToken (text ++ blanks) index =
      if (errorAtToken text index).description? = some "Unexpected end of input" then
        .atOffset (text ++ blanks) (byteLength (text ++ blanks)) "Unexpected end of input"
      else errorAtToken text index := by
  have hEnd := describes_end_iff text index
  rw [errorAtToken, Token.atOffset_append_blanks hPlace h]
  by_cases hNil : (Token.atOffset text index).text = []
  · rw [if_pos hNil, if_pos (hEnd.mpr hNil)]
    rfl
  · rw [if_neg hNil, if_neg fun hIs => hNil (hEnd.mp hIs), errorAtToken]
    exact BuildError.atOffset_append (Token.isPlace_start hPlace) blanks _

/-- An error looked for behind the last token of a text is at the end of the text. -/
theorem errorAtToken_contentEnd (text : List Char) :
    errorAtToken text (contentEnd text) =
      .atOffset text (byteLength text) "Unexpected end of input" := by
  have hStart : (Token.atOffset text (contentEnd text)).start = byteLength text :=
    Token.start_of_contentEnd text
  have hNil := (Token.text_eq_nil_iff (Text.isPlace_trimEnd text)).mpr hStart
  rw [errorAtToken, hStart, show (Token.atOffset text (contentEnd text)).text = [] from hNil]
  rfl

/-- **Faults and the end of the input**: a fault is described as the end of the input just where it
is reported at the end of the text.  That is so for every error node that runs to the last token of
the text and ends in a leaf that calls for more, whatever it begins with.  Blanks that are put behind
the text change no description, and move no other fault than one at the end, which stays there. -/
theorem recoveryError_of_end {node : Node} (hFits : ∀ part ∈ node.nodes, part.Fits text) :
    ((recoveryError text node).description? = some "Unexpected end of input" ↔
      (recoveryError text node).index? = some (byteLength text)) ∧
    (node.isMissing = false → byteLength (trimEnd text) ≤ node.stop →
      (node.lastLeaf.isMissing = true ∨ node.lastLeaf.isNamed = false ∧
        String.ofList (node.lastLeaf.text text) ∉ closingTokens) →
      recoveryError text node =
        .atOffset text (byteLength text) "Unexpected end of input") ∧
    ∀ blanks : List Char, (∀ c ∈ blanks, isBlank c = true) →
      (recoveryError (text ++ blanks) node).description? =
        (recoveryError text node).description? ∧
      recoveryError (text ++ blanks) node =
        if (recoveryError text node).description? = some "Unexpected end of input" then
          .atOffset (text ++ blanks) (byteLength (text ++ blanks)) "Unexpected end of input"
        else recoveryError text node := by
  have hPlace := isPlace_recovery hFits node.mem_nodes_self
  refine ⟨errorAtToken_end_iff hPlace, fun hReal hStop hMore => ?_, fun blanks hBlanks => ?_⟩
  · have hEnd : contentEnd text ≤ node.stop ∧ callsForMore text node.lastLeaf = true :=
      ⟨hStop, callsForMore_iff.mpr hMore⟩
    rw [recoveryError, hReal, if_neg Bool.false_ne_true, faultIndex, if_pos hEnd]
    exact errorAtToken_contentEnd text
  · have hMoved : recoveryError (text ++ blanks) node =
        if (recoveryError text node).description? = some "Unexpected end of input" then
          .atOffset (text ++ blanks) (byteLength (text ++ blanks)) "Unexpected end of input"
        else recoveryError text node := by
      rw [recoveryError, faultIndex_append_blanks hFits hBlanks]
      exact errorAtToken_append_blanks hPlace hBlanks
    refine ⟨?_, hMoved⟩
    rw [hMoved]
    by_cases hEnd : (recoveryError text node).description? = some "Unexpected end of input"
    · rw [if_pos hEnd, hEnd]
      rfl
    · rw [if_neg hEnd]

/-- The parse of `x = {`: an error that runs to the end of the text. -/
def brokenOff : Node :=
  .mk { kind := "ERROR", error := true, start := 0, stop := 5 } [
    .mk { kind := "identifier", start := 0, stop := 1 } [],
    .mk { kind := "=", named := false, start := 2, stop := 3 } [],
    .mk { kind := "\x7b", named := false, start := 4, stop := 5 } []]

/-- The error in the parse of `foo foo`: the first word is sound, so the second one is the fault. -/
def strayWord : Node :=
  .mk { kind := "ERROR", error := true, start := 0, stop := 3 } [
    .mk { kind := "identifier", start := 0, stop := 3 } []]

/-- The text that breaks off does so wherever its blanks end, and the stray word stays where it is. -/
theorem recoveryError_of_end_brokenOff :
    let blanks := ['\u3000', '\n']
    (∀ part ∈ brokenOff.nodes, part.Fits "x = \x7b".toList) ∧
    recoveryError "x = \x7b".toList brokenOff = .malformed 1 6 5 "Unexpected end of input" ∧
    recoveryError ("x = \x7b".toList ++ blanks) brokenOff =
      .malformed 2 1 9 "Unexpected end of input" ∧
    (∀ part ∈ strayWord.nodes, part.Fits "foo foo".toList) ∧
    recoveryError ("foo foo".toList ++ blanks) strayWord =
      .malformed 1 5 4 "Unexpected identifier" := by
  intro blanks
  have hBroken : ∀ part ∈ brokenOff.nodes, part.Fits "x = \x7b".toList := by decide +kernel
  have hStray : ∀ part ∈ strayWord.nodes, part.Fits "foo foo".toList := by decide +kernel
  have hBlanks : ∀ c ∈ blanks, isBlank c = true := List.all_eq_true.mp (by decide)
  obtain ⟨-, hEnds, hMoves⟩ := recoveryError_of_end hBroken
  have hEnd : recoveryError "x = \x7b".toList brokenOff =
      .malformed 1 6 5 "Unexpected end of input" :=
    hEnds rfl (by decide +kernel) (.inr ⟨rfl, by decide +kernel⟩)
  have hStays : recoveryError "foo foo".toList strayWord =
      .malformed 1 5 4 "Unexpected identifier" := by decide +kernel
  refine ⟨hBroken, hEnd, ?_, hStray, ?_⟩
  · rw [(hMoves blanks hBlanks).2, hEnd]
    rfl
  · rw [((recoveryError_of_end hStray).2.2 blanks hBlanks).2, hStays]
    rfl

end Rules

end ScriptAnalysis
