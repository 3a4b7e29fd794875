import ScriptAnalysis.Options.Encode

/-!
# Options written and read again

The options of an analysis and the entries for the scoring engine share one object, so what is
written is read again as it was, unless an entry stands under the key of an option.

* `field?_encode`: what is written under each key.
* `decode_eq_ok_iff`: which options are read from a value.
* `decode_encode`: flags, source types and language options are read as they were written.
* `round_trip`: which options are read as they were written, and what becomes of a value that is
  read and written again.
-/

namespace ScriptAnalysis

namespace Data

namespace Value

/-- What an object holds under a key. -/
def field? : Value → String → Option Value
  | .object fields, key => (Table.ofList fields).find? key
  | _, _ => none

theorem field?_ofFields (fields : List (String × Value)) (key : String) :
    (ofFields fields).field? key = (Table.ofList fields).find? key := by
  rw [ofFields, field?, Table.ofList_entries]

end Value

/-! ### Optional fields -/

variable {α : Type} {decode : Value → Except DecodeError α} {encode : α → Value}

theorem decodeOptional_of_ne_null {found : Value} (h : found ≠ .null) :
    decodeOptional decode (some found) = (decode found).map some := by
  cases found with
  | null => exact absurd rfl h
  | _ => rfl

/-- An optional value is read as it was written, if none is written as null. -/
theorem decodeOptional_map (hDecode : ∀ value, decode (encode value) = .ok value)
    (hNull : ∀ value, encode value ≠ .null) (value : Option α) :
    decodeOptional decode (value.map encode) = .ok value := by
  cases value with
  | none => rfl
  | some present =>
    have hSome : decodeOptional decode (some (encode present)) =
        (decode (encode present)).map some := decodeOptional_of_ne_null (hNull present)
    rw [Option.map_some, hSome, hDecode]
    rfl

end Data

open Data (DecodeError Table Value decodeFlag decodeOptional)

/-- An optional field hides what stands under its key, when it is there. -/
theorem find?_append_optionalField {α : Type} (fields : List (String × Value)) (key : String)
    (encode : α → Value) (value : Option α) (query : String) :
    (Table.ofList (fields ++ optionalField key encode value)).find? query =
      if query = key then (value.map encode).or ((Table.ofList fields).find? query)
      else (Table.ofList fields).find? query := by
  rw [Table.ofList, Table.insertAll_append, Table.find?_insertAll]
  cases value with
  | none =>
    have hSame : (if query = key then (Table.ofList fields).find? query
        else (Table.ofList fields).find? query) = (Table.ofList fields).find? query := ite_self _
    exact hSame.symm
  | some present =>
    show (([(key, encode present)].lookup query).or _) = _
    rw [Table.lookup_entry_cons]
    by_cases hKey : query = key
    · rw [if_pos hKey, if_pos hKey]
      rfl
    · rw [if_neg hKey, if_neg hKey]
      rfl

theorem find?_optionalField {α : Type} (key : String) (encode : α → Value) (value : Option α)
    (query : String) :
    (Table.ofList (optionalField key encode value)).find? query =
      if query = key then value.map encode else none := by
  have hNothing : (Table.ofList ([] : List (String × Value))).find? query = none := rfl
  have hAppend := find?_append_optionalField [] key encode value query
  rw [List.nil_append, hNothing, Option.or_none] at hAppend
  exact hAppend

/-! ### Language options -/

/-- Flags are read as they were written. -/
theorem decodeFlags_map (flags : List (String × Bool)) :
    decodeFlags (flags.map fun entry => (entry.1, .bool entry.2)) = .ok flags := by
  induction flags with
  | nil => rfl
  | cons head rest ih =>
    rw [List.map_cons, decodeFlags, ih]
    rfl

theorem Features.decode_encode (features : Features) :
    Features.decode features.encode = .ok features := by
  have hAscending : (features.entries.map fun entry => (entry.1, Value.bool entry.2)).Pairwise
      fun a b => a.1 < b.1 := List.pairwise_map.mpr features.ascending
  have hEntries := congrArg Table.entries (Table.ofList_entries ⟨_, hAscending⟩)
  rw [encode, decode, hEntries, decodeFlags_map]
  exact congrArg Except.ok (Table.ofList_entries features)

theorem SourceType.decode_encode (sourceType : SourceType) :
    SourceType.decode (.string sourceType.name) = .ok sourceType := by
  cases sourceType <;> rfl

theorem decodeVersion_toNat (version : UInt32) :
    decodeVersion (.int version.toNat) = .ok version := by
  have hRange : (0 : Int) ≤ version.toNat ∧ (version.toNat : Int).toNat < UInt32.size := by
    rw [Int.toNat_natCast]
    exact ⟨Int.natCast_nonneg _, version.toNat_lt⟩
  rw [decodeVersion, if_pos hRange, Int.toNat_natCast, UInt32.ofNat_toNat]

namespace LanguageOptions

/-- What is written under each key. -/
theorem field?_encode (language : LanguageOptions) (key : String) :
    language.encode.field? key =
      if key = "ecmaFeatures" then language.features.map Features.encode
      else if key = "tolerant" then language.tolerant.map Value.bool
      else if key = "sourceType" then
        language.sourceType.map fun sourceType => .string sourceType.name
      else if key = "ecmaVersion" then
        language.version.map fun version => .int version.toNat
      else none := by
  rw [encode, Value.field?_ofFields]
  simp only [find?_append_optionalField, find?_optionalField]
  -- No two of the keys agree, so a field that is there hides nothing.
  by_cases hFeatures : key = "ecmaFeatures"
  · subst hFeatures
    simp
  · by_cases hTolerant : key = "tolerant"
    · subst hTolerant
      simp
    · by_cases hSource : key = "sourceType"
      · subst hSource
        simp
      · simp only [if_neg hFeatures, if_neg hTolerant, if_neg hSource]

/-- Language options are read from the fields of an object. -/
theorem decode_of_isObject {value : Value} (h : ∃ fields, value = .object fields) :
    decode value = do
      let features ← decodeOptional Features.decode (value.field? "ecmaFeatures")
      let version ← decodeOptional decodeVersion (value.field? "ecmaVersion")
      let sourceType ← decodeOptional SourceType.decode (value.field? "sourceType")
      let tolerant ← decodeOptional decodeFlag (value.field? "tolerant")
      return { version, sourceType, tolerant, features } := by
  obtain ⟨fields, rfl⟩ := h
  rfl

/-- **Language options** are read as they were written. -/
theorem decode_encode (language : LanguageOptions) : decode language.encode = .ok language := by
  have hFeatures : decodeOptional Features.decode (language.encode.field? "ecmaFeatures") =
      .ok language.features := by
    rw [field?_encode]
    exact Data.decodeOptional_map Features.decode_encode (fun _ h => nomatch h) _
  have hVersion : decodeOptional decodeVersion (language.encode.field? "ecmaVersion") =
      .ok language.version := by
    rw [field?_encode]
    exact Data.decodeOptional_map decodeVersion_toNat (fun _ h => nomatch h) _
  have hSource : decodeOptional SourceType.decode (language.encode.field? "sourceType") =
      .ok language.sourceType := by
    rw [field?_encode]
    exact Data.decodeOptional_map SourceType.decode_encode (fun _ h => nomatch h) _
  have hTolerant : decodeOptional decodeFlag (language.encode.field? "tolerant") =
      .ok language.tolerant := by
    have hFlag : ∀ flag, decodeFlag (.bool flag) = .ok flag := fun _ => rfl
    rw [field?_encode]
    exact Data.decodeOptional_map hFlag (fun _ h => nomatch h) _
  have hObject : ∃ fields, language.encode = .object fields := ⟨_, rfl⟩
  rw [decode_of_isObject hObject, hFeatures, hVersion, hSource, hTolerant]
  rfl

end LanguageOptions

namespace Options

/-- What is written under each key: an entry for the scoring engine hides an option. -/
theorem field?_encode (options : Options) (key : String) :
    options.encode.field? key = (options.extra.find? key).or
      (if key = ignoreErrorsKey then some (.bool options.ignoreErrors)
      else if key = languageKey then options.language.map LanguageOptions.encode
      else none) := by
  have hPolicy : [(ignoreErrorsKey, Value.bool options.ignoreErrors)] =
      optionalField ignoreErrorsKey Value.bool (some options.ignoreErrors) := rfl
  rw [encode, Value.field?_ofFields, Table.ofList, Table.insertAll_append,
    Table.find?_insertAll_entries, hPolicy]
  refine congrArg _ ?_
  rw [← Table.ofList, find?_append_optionalField, find?_optionalField]
  rfl

/-- What stands under no known key is left. -/
theorem find?_erase_known (table : Table Value) (key : String) :
    ((table.erase languageKey).erase ignoreErrorsKey).find? key =
      if key = languageKey ∨ key = ignoreErrorsKey then none else table.find? key := by
  rw [Table.find?_erase, Table.find?_erase]
  by_cases hPolicy : key = ignoreErrorsKey
  · rw [if_pos hPolicy, if_pos (Or.inr hPolicy)]
  · by_cases hLanguage : key = languageKey
    · rw [if_neg hPolicy, if_pos hLanguage, if_pos (Or.inl hLanguage)]
    · rw [if_neg hPolicy, if_neg hLanguage, if_neg (not_or.mpr ⟨hLanguage, hPolicy⟩)]

/-- **Which options are read from a value**: those under the two known keys, and each entry under
another one. -/
theorem decode_eq_ok_iff {value : Value} {options : Options} :
    decode value = .ok options ↔
      (∃ fields, value = .object fields) ∧
      decodeOptional LanguageOptions.decode (value.field? languageKey) = .ok options.language ∧
      decodePolicy (value.field? ignoreErrorsKey) = .ok options.ignoreErrors ∧
      ∀ key, options.extra.find? key =
        if key = languageKey ∨ key = ignoreErrorsKey then none else value.field? key := by
  constructor
  · intro h
    cases value with
    | object fields =>
      rw [decode] at h
      cases hLanguage : decodeOptional LanguageOptions.decode
          ((Table.ofList fields).find? languageKey) with
      | error fault =>
        rw [hLanguage] at h
        cases h
      | ok language =>
        cases hPolicy : decodePolicy ((Table.ofList fields).find? ignoreErrorsKey) with
        | error fault =>
          rw [hLanguage, hPolicy] at h
          cases h
        | ok ignoreErrors =>
          rw [hLanguage, hPolicy] at h
          obtain rfl := Except.ok.inj h
          exact ⟨⟨fields, rfl⟩, hLanguage, hPolicy, fun key => find?_erase_known _ key⟩
    | _ => cases h
  · rintro ⟨⟨fields, rfl⟩, hLanguage, hPolicy, hExtra⟩
    have hTable : ((Table.ofList fields).erase languageKey).erase ignoreErrorsKey =
        options.extra := by
      refine Table.ext_find? fun key => ?_
      rw [find?_erase_known, hExtra]
      rfl
    rw [Value.field?] at hLanguage hPolicy
    rw [decode, hLanguage, hPolicy, hTable]
    rfl

/-- Options that are read hold no entry under a known key. -/
theorem find?_known_of_decode {value : Value} {options : Options}
    (h : decode value = .ok options) :
    options.extra.find? languageKey = none ∧ options.extra.find? ignoreErrorsKey = none := by
  obtain ⟨-, -, -, hExtra⟩ := decode_eq_ok_iff.mp h
  constructor
  · rw [hExtra, if_pos (Or.inl rfl)]
  · rw [hExtra, if_pos (Or.inr rfl)]

/-- **Options are read as they were written** if no entry hides one of them. -/
theorem decode_encode {options : Options} (hLanguage : options.extra.find? languageKey = none)
    (hPolicy : options.extra.find? ignoreErrorsKey = none) :
    decode options.encode = .ok options := by
  refine decode_eq_ok_iff.mpr ⟨⟨_, rfl⟩, ?_, ?_, fun key => ?_⟩
  · have hField : options.encode.field? languageKey =
        options.language.map LanguageOptions.encode := by
      rw [field?_encode, hLanguage]
      rfl
    rw [hField]
    exact Data.decodeOptional_map LanguageOptions.decode_encode (fun _ h => nomatch h) _
  · have hField : options.encode.field? ignoreErrorsKey = some (.bool options.ignoreErrors) := by
      rw [field?_encode, hPolicy]
      rfl
    rw [hField]
    rfl
  · rw [field?_encode]
    by_cases hFirst : key = languageKey
    · rw [if_pos (Or.inl hFirst), hFirst, hLanguage]
    · by_cases hSecond : key = ignoreErrorsKey
      · rw [if_pos (Or.inr hSecond), hSecond, hPolicy]
      · rw [if_neg (not_or.mpr ⟨hFirst, hSecond⟩), if_neg hFirst, if_neg hSecond, Option.or_none]

/-- What is under another key than the known ones is written as it was read. -/
theorem field?_encode_of_decode {value : Value} {options : Options}
    (h : decode value = .ok options) {key : String} (hLanguage : key ≠ languageKey)
    (hPolicy : key ≠ ignoreErrorsKey) : options.encode.field? key = value.field? key := by
  obtain ⟨-, -, -, hExtra⟩ := decode_eq_ok_iff.mp h
  rw [field?_encode, hExtra, if_neg (not_or.mpr ⟨hLanguage, hPolicy⟩), if_neg hLanguage,
    if_neg hPolicy, Option.or_none]

theorem extra_beq_of_beq {a b : Options} (h : (a == b) = true) : (a.extra == b.extra) = true := by
  have hParts : ((a.language == b.language) &&
      ((a.ignoreErrors == b.ignoreErrors) && (a.extra == b.extra))) = true := h
  rw [Bool.and_eq_true, Bool.and_eq_true] at hParts
  exact hParts.2.2

/-- **Options written and read again** are the same ones, and taken for the same ones, just if no
entry stands under a known key.  Options that were read hold no such entry, so they are; and all
the other fields of the value they were read from are written again as they were. -/
theorem round_trip :
    (∀ options : Options, decode options.encode = .ok options ↔
      options.extra.find? languageKey = none ∧ options.extra.find? ignoreErrorsKey = none) ∧
    (∀ options back : Options, decode options.encode = .ok back → (back == options) = true →
      options.extra.find? languageKey = none ∧ options.extra.find? ignoreErrorsKey = none) ∧
    ∀ (value : Value) (options : Options), decode value = .ok options →
      options.extra.find? languageKey = none ∧ options.extra.find? ignoreErrorsKey = none ∧
      decode options.encode = .ok options ∧
      ∀ key, key ≠ languageKey → key ≠ ignoreErrorsKey →
        options.encode.field? key = value.field? key := by
  refine ⟨fun options => ⟨fun h => find?_known_of_decode h, fun ⟨hLanguage, hPolicy⟩ =>
    decode_encode hLanguage hPolicy⟩, fun options back h hEq => ?_, fun value options h => ?_⟩
  · have hBack := find?_known_of_decode h
    have hExtra := extra_beq_of_beq hEq
    exact ⟨Table.find?_eq_none_of_beq hExtra hBack.1, Table.find?_eq_none_of_beq hExtra hBack.2⟩
  · obtain ⟨hLanguage, hPolicy⟩ := find?_known_of_decode h
    exact ⟨hLanguage, hPolicy, decode_encode hLanguage hPolicy,
      fun key hFirst hSecond => field?_encode_of_decode h hFirst hSecond⟩

/-- Language options as a list, the source type as an object, and an entry of mixed numbers. -/
def mixedFields : Value :=
  .object [("weights", .array [.int 1, .float (.ofInt 1), .null]), ("ignoreErrors", .bool true),
    ("ecmaOptions", .array [.int 2020, .object [("module", .null)]])]

/-- What is read from them. -/
def ofMixedFields : Options where
  language := some { version := some 2020, sourceType := some .module }
  ignoreErrors := true
  extra := Table.empty.insert "weights" (.array [.int 1, .float (.ofInt 1), .null])

/-- The entry is written as it was read; one more under the key of the failure policy is lost. -/
theorem round_trip_of_mixedFields :
    decode mixedFields = .ok ofMixedFields ∧ decode ofMixedFields.encode = .ok ofMixedFields ∧
    ofMixedFields.encode.field? "weights" = mixedFields.field? "weights" ∧
    decode (ofMixedFields.withExtra "ignoreErrors" .null).encode ≠
      .ok (ofMixedFields.withExtra "ignoreErrors" .null) := by
  have hDecode : decode mixedFields = .ok ofMixedFields := by rfl
  obtain ⟨hExactly, -, hRead⟩ := round_trip
  obtain ⟨-, -, hAgain, hOthers⟩ := hRead mixedFields ofMixedFields hDecode
  refine ⟨hDecode, hAgain, hOthers "weights" (by decide) (by decide), fun h => ?_⟩
  have hLost := ((hExactly _).mp h).2
  cases hLost

end Options

end ScriptAnalysis
