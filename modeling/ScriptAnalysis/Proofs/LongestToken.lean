import ScriptAnalysis.Proofs.EndOfInput

/-!
# The longest token

An error is reported at the token that follows a place of a text, behind the blanks there.  A word or
a number reaches as far as identifiers go on, anything else is one character.

* `isLongestRun_takeWhile`: the longest run of characters of a kind.
* `Token.isLongestRun_munch`: a word or a number is the longest run of an identifier's characters.
* `errorAtToken_of_longest`: where the token after a place is, how far it reaches, and what is said.
-/

namespace ScriptAnalysis

open Text (IsPlace Token beginsIdentifier byteLength continuesIdentifier isBlank)

namespace Text

/-- A run is the longest one of characters of a kind that a text begins with. -/
structure IsLongestRun (ofKind : Char → Bool) (run text : List Char) : Prop where
  begins : run <+: text
  all : ∀ c ∈ run, ofKind c = true
  longest : ∀ other, other <+: text → (∀ c ∈ other, ofKind c = true) → other <+: run

/-- **The longest run** of characters of a kind is what is taken while they are of it. -/
theorem isLongestRun_takeWhile (ofKind : Char → Bool) (text : List Char) :
    IsLongestRun ofKind (text.takeWhile ofKind) text where
  begins := List.takeWhile_prefix ofKind
  all := fun _ hMem => List.mem_takeWhile_imp hMem
  longest := by
    rintro other ⟨rest, rfl⟩ hAll
    rw [List.takeWhile_append_of_pos hAll]
    exact List.prefix_append _ _

namespace Token

/-- The token after a place is read from behind the blanks there. -/
theorem text_append (before after : List Char) :
    (atOffset (before ++ after) (byteLength before)).text = munch (after.dropWhile isBlank) := by
  rw [atOffset, from?_append, Option.getD_some, first]

theorem munch_prefix (text : List Char) : munch text <+: text := by
  cases text with
  | nil => exact List.prefix_rfl
  | cons c rest =>
    rw [munch]
    split
    · exact List.takeWhile_prefix _
    · exact List.prefix_append [c] rest

/-- A token begins as what it is read from. -/
theorem head?_munch (text : List Char) : (munch text).head? = text.head? := by
  cases text with
  | nil => rfl
  | cons c rest =>
    rw [munch]
    split
    · rename_i hBegins
      rw [List.takeWhile_cons_of_pos (continuesIdentifier_of_begins hBegins)]
      rfl
    · rfl

/-- **A token reaches** as far as identifiers go on, if it is a word or a number, and is one character
if it is neither. -/
theorem isLongestRun_munch (c : Char) (rest : List Char) :
    if beginsIdentifier c || c.isDigit then
      IsLongestRun continuesIdentifier (munch (c :: rest)) (c :: rest)
    else munch (c :: rest) = [c] := by
  rw [munch]
  split
  · exact isLongestRun_takeWhile _ _
  · rfl

end Token

end Text

namespace Rules

variable {text : List Char} {index : Nat}

/-- **An error is reported at the longest token.**  Behind a place of a text there are blanks, and then
the token that the text goes on with; there is none just where the blanks go on to the end of the text,
which is then its start.  Else the token begins with no blank.  A word or a number is the longest run of
characters that go on in identifiers, any other token is one character.  The error behind the place is
reported where the token starts, and worded for a kind of tokens just if the token is of it. -/
theorem errorAtToken_of_longest (h : IsPlace text index) :
    let token := Token.atOffset text index
    (∃ before blanks ahead, text = before ++ (blanks ++ ahead) ∧
      index = byteLength before ∧ token.start = index + byteLength blanks ∧
      (∀ c ∈ blanks, isBlank c = true) ∧ token.text <+: ahead ∧
      (token.text = [] ↔ ∀ c ∈ blanks ++ ahead, isBlank c = true) ∧
      (token.text = [] → token.start = byteLength text) ∧
      ∀ c ∈ token.text.head?, isBlank c = false ∧
        if beginsIdentifier c || c.isDigit then
          Text.IsLongestRun continuesIdentifier token.text ahead
        else token.text = [c]) ∧
    ∃ description, errorAtToken text index = .atOffset text token.start description ∧
      ∀ kind : Token.Kind,
        description = kind.wording (String.ofList token.text) ↔ kind.Holds token.text := by
  intro token
  refine ⟨?_, Token.describe token.text, rfl, fun kind => Token.describe_eq_wording_iff⟩
  have hEnd : token.text = [] → token.start = byteLength text := (Token.text_eq_nil_iff h).mp
  obtain ⟨before, after, rfl, rfl⟩ := h
  have hAfter : after.takeWhile isBlank ++ after.dropWhile isBlank = after :=
    List.takeWhile_append_dropWhile
  have hText : token.text = Token.munch (after.dropWhile isBlank) := Token.text_append before after
  have hStart : token.start = byteLength before + byteLength (after.takeWhile isBlank) :=
    Token.start_append before after
  refine ⟨before, after.takeWhile isBlank, after.dropWhile isBlank, by rw [hAfter], rfl, hStart,
    fun _ hMem => List.mem_takeWhile_imp hMem, ?_, ?_, hEnd, ?_⟩
  · rw [hText]
    exact Token.munch_prefix _
  · rw [hText, Token.munch_eq_nil_iff, List.dropWhile_eq_nil_iff, hAfter]
  · rw [hText, Token.head?_munch]
    intro c hFirst
    have hInk := List.head?_dropWhile_not isBlank after
    rw [hFirst] at hInk
    obtain ⟨rest, hAhead⟩ := List.head?_eq_some_iff.mp hFirst
    rw [hAhead]
    exact ⟨hInk, Token.isLongestRun_munch c rest⟩

/-- Behind the equals sign a wide blank is passed over; the word begins with a reserved one, goes on with
a letter of two bytes and a digit, and ends at the minus sign.  Behind that the reserved word stands
alone, and is named. -/
theorem errorAtToken_of_longest_class :
    let text := "ü =\u3000classé9-class".toList
    let word := "classé9".toList
    let reserved := "class".toList
    IsPlace text 4 ∧ Token.atOffset text 4 = ⟨7, word⟩ ∧
    Text.IsLongestRun continuesIdentifier word (word ++ '-' :: reserved) ∧
    errorAtToken text 4 = .malformed 1 8 7 "Unexpected identifier" ∧
    (∀ kind : Token.Kind, kind.Holds word ↔ kind = .identifier) ∧
    IsPlace text 16 ∧ Token.atOffset text 16 = ⟨16, reserved⟩ ∧
    errorAtToken text 16 = .malformed 1 17 16 "Unexpected token class" ∧
    ∀ kind : Token.Kind, kind.Holds reserved ↔ kind = .other := by
  intro text word reserved
  have hWord : Token.Kind.identifier.Holds word :=
    ⟨'c', "lassé9".toList, rfl, by decide +kernel, by decide +kernel⟩
  have hReserved : Token.Kind.other.Holds reserved :=
    ⟨'c', "lass".toList, rfl, by decide +kernel, by decide, by decide, by decide⟩
  have hPlace : IsPlace text 4 := by decide +kernel
  have hToken : Token.atOffset text 4 = ⟨7, word⟩ := by decide +kernel
  have hLast : IsPlace text 16 := by decide +kernel
  have hLastToken : Token.atOffset text 16 = ⟨16, reserved⟩ := by decide +kernel
  obtain ⟨⟨before, blanks, ahead, hText, hIndex, hStart, -, -, -, -, hReach⟩, _, hError, hKinds⟩ :=
    errorAtToken_of_longest hPlace
  obtain ⟨-, _, hLastError, hLastKinds⟩ := errorAtToken_of_longest hLast
  rw [hToken] at hStart hReach hError hKinds
  rw [hLastToken] at hLastError hLastKinds
  have hCut : before ++ blanks ++ ahead = "ü =\u3000".toList ++ (word ++ '-' :: reserved) := by
    rw [List.append_assoc, ← hText]
    rfl
  obtain ⟨-, rfl⟩ := Text.append_inj_of_byteLength hCut (by
    rw [Text.byteLength_append, ← hIndex, ← hStart]
    rfl)
  have hRun := (hReach 'c' rfl).2
  rw [if_pos (by decide +kernel)] at hRun
  refine ⟨hPlace, hToken, hRun, ?_, fun kind => ?_, hLast, hLastToken, ?_, fun kind => ?_⟩
  · rw [hError, (hKinds .identifier).mpr hWord]
    decide +kernel
  · exact ⟨fun hHolds => hHolds.unique hWord, fun hIs => hIs ▸ hWord⟩
  · rw [hLastError, (hLastKinds .other).mpr hReserved]
    decide +kernel
  · exact ⟨fun hHolds => hHolds.unique hReserved, fun hIs => hIs ▸ hReserved⟩

end Rules

end ScriptAnalysis
