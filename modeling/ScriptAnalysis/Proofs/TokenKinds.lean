import Mathlib.Logic.Function.Basic
import ScriptAnalysis.Text.Token

/-!
# Kinds of tokens

An error at a token is described by what the token begins with, a reserved word apart.  Since no digit
and no quote is a letter, every token is of one kind, and every kind has a wording of its own.

* `beginsIdentifier_of_isDigit`: no digit begins an identifier.
* `Token.Kind.exists_holds`, `Token.Kind.Holds.unique`: every token is of a kind that error messages
  tell apart, and of one only.
* `Token.Kind.wording_injective`: kinds are worded apart.
* `Token.describe_eq_wording_iff`: a token is described as a kind is worded just if it is of the kind.
-/

namespace ScriptAnalysis.Text

/-- **No digit** begins an identifier. -/
theorem beginsIdentifier_of_isDigit {c : Char} (h : c.isDigit = true) :
    beginsIdentifier c = false := by
  obtain ⟨hLow, hHigh⟩ : 0x30 ≤ c.toNat ∧ c.toNat ≤ 0x39 := Char.isDigit_iff_toNat.mp h
  have hAbove : ∀ range ∈ alphabeticRanges, 0x41 ≤ range.1 := by decide +kernel
  have hLetter : isAlphabetic c = false := by
    refine Bool.eq_false_iff.mpr fun hIs => ?_
    obtain ⟨range, hMem, hFrom, -⟩ := Ranges.exists_mem_of_contains hIs
    have hLeast := hAbove range hMem
    omega
  have hOther : ∀ d : Char, d.isDigit = false → (c == d) = false :=
    fun d hNone => beq_false_of_ne fun hIs => Bool.false_ne_true (hNone.symm.trans (hIs ▸ h))
  rw [beginsIdentifier, hLetter, hOther '_' rfl, hOther '$' rfl]
  rfl

namespace Token

/-- The kinds of tokens that an error message tells apart. -/
inductive Kind where
  | ending | identifier | number | string | template | other
  deriving DecidableEq, Repr

namespace Kind

/-- What is said of an unexpected token of a kind. -/
def wording (word : String) : Kind → String
  | ending => "Unexpected end of input"
  | identifier => "Unexpected identifier"
  | number => "Unexpected number"
  | string => "Unexpected string"
  | template => "Unexpected template string"
  | other => "Unexpected token " ++ word

/-- What a token of a kind begins with.  A reserved word is no identifier, and any token that is of no
other kind is of the last one. -/
def Holds (token : List Char) : Kind → Prop
  | ending => token = []
  | identifier => ∃ c rest, token = c :: rest ∧ beginsIdentifier c = true ∧
      String.ofList token ∉ reservedWords
  | number => ∃ c rest, token = c :: rest ∧ c.isDigit = true
  | string => ∃ c rest, token = c :: rest ∧ (c = '"' ∨ c = '\'')
  | template => ∃ c rest, token = c :: rest ∧ c = '\x60'
  | other => ∃ c rest, token = c :: rest ∧
      ¬(beginsIdentifier c = true ∧ String.ofList token ∉ reservedWords) ∧
      ¬c.isDigit = true ∧ ¬(c = '"' ∨ c = '\'') ∧ c ≠ '\x60'

/-- The thirteenth character of the wording, by which the kinds are told apart. -/
def letter : Kind → Char
  | ending => 'n'
  | identifier => 'd'
  | number => 'u'
  | string => 't'
  | template => 'e'
  | other => 'o'

theorem letter_injective : Function.Injective letter := by
  intro first second
  cases first <;> cases second <;> decide

theorem getElem?_wording (word : String) (kind : Kind) :
    (kind.wording word).toList[12]? = some kind.letter := by
  cases kind with
  | other =>
    -- Not by the equation of `wording`, which is slow to come by: it compares bytes.
    change ("Unexpected token " ++ word).toList[12]? = some 'o'
    rw [String.toList_append, List.getElem?_append_left (by decide +kernel)]
    decide +kernel
  | ending => exact (by decide +kernel : "Unexpected end of input".toList[12]? = some 'n')
  | identifier => exact (by decide +kernel : "Unexpected identifier".toList[12]? = some 'd')
  | number => exact (by decide +kernel : "Unexpected number".toList[12]? = some 'u')
  | string => exact (by decide +kernel : "Unexpected string".toList[12]? = some 't')
  | template => exact (by decide +kernel : "Unexpected template string".toList[12]? = some 'e')

/-- **Kinds are worded apart**, whatever the word. -/
theorem wording_injective (word : String) : Function.Injective (wording word) := by
  intro first second h
  have hLetter : some first.letter = some second.letter := by
    rw [← getElem?_wording word, ← getElem?_wording word, h]
  exact letter_injective (Option.some.inj hLetter)

/-- **Every token** is of a kind. -/
theorem exists_holds (token : List Char) : ∃ kind : Kind, kind.Holds token := by
  cases token with
  | nil => exact ⟨ending, rfl⟩
  | cons c rest =>
    by_cases hWord : beginsIdentifier c = true ∧ String.ofList (c :: rest) ∉ reservedWords
    · exact ⟨identifier, c, rest, rfl, hWord⟩
    by_cases hDigit : c.isDigit = true
    · exact ⟨number, c, rest, rfl, hDigit⟩
    by_cases hQuote : c = '"' ∨ c = '\''
    · exact ⟨string, c, rest, rfl, hQuote⟩
    by_cases hTemplate : c = '\x60'
    · exact ⟨template, c, rest, rfl, hTemplate⟩
    exact ⟨other, c, rest, rfl, hWord, hDigit, hQuote, hTemplate⟩

/-- **A token of a kind** is described as its kind is worded. -/
theorem describe_of_holds {kind : Kind} {token : List Char} (h : kind.Holds token) :
    describe token = kind.wording (String.ofList token) := by
  cases kind with
  | ending =>
    rw [Holds] at h
    rw [h]
    rfl
  | identifier =>
    obtain ⟨c, rest, rfl, hBegins, hFree⟩ := h
    have hListed : ¬reservedWords.contains (String.ofList (c :: rest)) = true :=
      fun hIs => hFree (List.contains_iff_mem.mp hIs)
    rw [describe, if_pos hBegins, if_neg hListed]
    rfl
  | number =>
    obtain ⟨c, rest, rfl, hDigit⟩ := h
    rw [describe, if_neg (Bool.eq_false_iff.mp (beginsIdentifier_of_isDigit hDigit)), if_pos hDigit]
    rfl
  | string =>
    obtain ⟨_, rest, rfl, rfl | rfl⟩ := h
    · rfl
    · rfl
  | template =>
    obtain ⟨_, rest, rfl, rfl⟩ := h
    rfl
  | other =>
    obtain ⟨c, rest, rfl, hWord, hDigit, hQuote, hTemplate⟩ := h
    cases hBegins : beginsIdentifier c with
    | true =>
      have hReserved : String.ofList (c :: rest) ∈ reservedWords :=
        not_not.mp fun hFree => hWord ⟨hBegins, hFree⟩
      rw [describe, if_pos hBegins, if_pos (List.contains_iff_mem.mpr hReserved)]
      rfl
    | false =>
      rw [describe, if_neg (Bool.eq_false_iff.mp hBegins), if_neg hDigit,
        if_neg (by simpa using hQuote), if_neg (by simpa using hTemplate)]
      rfl

/-- **A token** is of no other kind than one that it is of. -/
theorem Holds.unique {first second : Kind} {token : List Char} (hFirst : first.Holds token)
    (hSecond : second.Holds token) : first = second :=
  wording_injective _ ((describe_of_holds hFirst).symm.trans (describe_of_holds hSecond))

end Kind

/-- **An error at a token** is worded for a kind just if the token is of it. -/
theorem describe_eq_wording_iff {kind : Kind} {token : List Char} :
    describe token = kind.wording (String.ofList token) ↔ kind.Holds token := by
  refine ⟨fun h => ?_, Kind.describe_of_holds⟩
  obtain ⟨held, hHeld⟩ := Kind.exists_holds token
  have hSame := Kind.wording_injective _ (h.symm.trans (Kind.describe_of_holds hHeld))
  rwa [hSame]

end Token

end ScriptAnalysis.Text
