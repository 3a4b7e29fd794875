import ScriptAnalysis.Dialect
import ScriptAnalysis.Proofs.Denotations
import ScriptAnalysis.Source

/-!
# Options and sources given as lists

Language options and sources may be given by their fields or as a list of these in a fixed order.
The two forms are read in different orders, so they may be refused for different reasons, but they
denote the same.

* `denotesLanguage_zip_iff`: language options given as a list and by their fields.
* `Source.decode_object_eq_ok_iff`, `Source.decode_array_eq_ok_iff`: which sources are read.
* `Source.decodeBatch_encodeBatch`: sources are read as they were written.
* `list_form_agrees`: the two forms of language options and of sources.
-/

namespace ScriptAnalysis

open Data (DecodeError Table Value)

/-- What gives no result fails. -/
theorem Data.exists_error_of_forall_ne_ok {α : Type} {result : Except DecodeError α}
    (h : ∀ value, result ≠ .ok value) : ∃ fault, result = .error fault := by
  cases result with
  | error fault => exact ⟨fault, rfl⟩
  | ok value => exact absurd rfl (h value)

/-! ### Language options -/

/-- The keys of language options in the order of a list of them. -/
def languageKeys : List String := ["ecmaVersion", "sourceType", "tolerant", "ecmaFeatures"]

/-- The first items of a list under the keys of language options. -/
theorem find?_languageKeys_zip {items : List Value} (h : items.length ≤ 4) :
    (Table.ofList (languageKeys.zip items)).find? "ecmaVersion" = items[0]? ∧
    (Table.ofList (languageKeys.zip items)).find? "sourceType" = items[1]? ∧
    (Table.ofList (languageKeys.zip items)).find? "tolerant" = items[2]? ∧
    (Table.ofList (languageKeys.zip items)).find? "ecmaFeatures" = items[3]? := by
  match items, h with
  | [], _ => exact ⟨rfl, rfl, rfl, rfl⟩
  | [_], _ => simp [languageKeys, Table.ofList, Table.insertAll, Table.find?_insert]
  | [_, _], _ => simp [languageKeys, Table.ofList, Table.insertAll, Table.find?_insert]
  | [_, _, _], _ => simp [languageKeys, Table.ofList, Table.insertAll, Table.find?_insert]
  | [_, _, _, _], _ => simp [languageKeys, Table.ofList, Table.insertAll, Table.find?_insert]

/-- **A list** denotes the language options that its items denote as fields. -/
theorem denotesLanguage_zip_iff {items : List Value} (h : items.length ≤ 4)
    (language : LanguageOptions) :
    DenotesLanguage (.array items) language ↔
      DenotesLanguage (.object (languageKeys.zip items)) language := by
  obtain ⟨hVersion, hSource, hTolerant, hFeatures⟩ := find?_languageKeys_zip h
  have hSlots : DenotesSlots items[0]? items[1]? items[2]? items[3]? language ↔
      DenotesSlots ((Value.object (languageKeys.zip items)).field? "ecmaVersion")
        ((Value.object (languageKeys.zip items)).field? "sourceType")
        ((Value.object (languageKeys.zip items)).field? "tolerant")
        ((Value.object (languageKeys.zip items)).field? "ecmaFeatures") language := by
    simp only [Value.field?, hVersion, hSource, hTolerant, hFeatures]
  constructor
  · intro hDenotes
    cases hDenotes with
    | array _ slots => exact .object (hSlots.mp slots)
  · intro hDenotes
    cases hDenotes with
    | object slots => exact .array h (hSlots.mpr slots)

/-- What is not null denotes an option that is there. -/
theorem denotesOptional_some_iff {α : Type} {denotes : Value → α → Prop} {found : Value}
    (h : found ≠ .null) {option : Option α} :
    DenotesOptional denotes (some found) option ↔
      ∃ given, option = some given ∧ denotes found given := by
  constructor
  · intro hDenotes
    cases hDenotes with
    | null => exact absurd rfl h
    | present given => exact ⟨_, rfl, given⟩
  · rintro ⟨given, rfl, hGiven⟩
    exact .present hGiven

/-- A field that comes last hides what stands under its key. -/
theorem field?_concat (fields : List (String × Value)) (key : String) (value : Value)
    (query : String) :
    (Value.object (fields ++ [(key, value)])).field? query =
      if query = key then some value else (Value.object fields).field? query := by
  rw [Value.field?, Table.ofList, Table.insertAll_append]
  exact Table.find?_insert _ key query value

/-- Analysis options are denoted as well by another object that denotes the same language options
and holds the same under all other keys. -/
theorem DenotesOptions.of_sameLanguage {value other : Value} {options : Options}
    (h : DenotesOptions value options) (hObject : ∃ fields, other = .object fields)
    (hLanguage :
      DenotesOptional DenotesLanguage (value.field? Options.languageKey) options.language →
      DenotesOptional DenotesLanguage (other.field? Options.languageKey) options.language)
    (hOthers : ∀ key, key ≠ Options.languageKey → other.field? key = value.field? key) :
    DenotesOptions other options where
  isObject := hObject
  language := hLanguage h.language
  ignoreErrors := by
    rw [hOthers _ (by decide)]
    exact h.ignoreErrors
  extra key := by
    rw [h.extra]
    by_cases hKnown : key = Options.languageKey ∨ key = Options.ignoreErrorsKey
    · rw [if_pos hKnown, if_pos hKnown]
    · rw [if_neg hKnown, if_neg hKnown, hOthers key fun hKey => hKnown (Or.inl hKey)]

/-- **In analysis options** a list of language options may stand for their fields. -/
theorem denotesOptions_zip_iff (fields : List (String × Value)) {items : List Value}
    (h : items.length ≤ 4) (options : Options) :
    DenotesOptions (.object (fields ++ [(Options.languageKey, .array items)])) options ↔
      DenotesOptions
        (.object (fields ++ [(Options.languageKey, .object (languageKeys.zip items))]))
        options := by
  have hLanguage : DenotesOptional DenotesLanguage (some (.array items)) options.language ↔
      DenotesOptional DenotesLanguage (some (.object (languageKeys.zip items)))
        options.language := by
    have hArray : Value.array items ≠ .null := fun h => by cases h
    have hObject : Value.object (languageKeys.zip items) ≠ .null := fun h => by cases h
    rw [denotesOptional_some_iff hArray, denotesOptional_some_iff hObject]
    simp only [denotesLanguage_zip_iff h]
  constructor
  · intro hDenotes
    refine hDenotes.of_sameLanguage ⟨_, rfl⟩ (fun hGiven => ?_) (fun key hKey => ?_)
    · rw [field?_concat, if_pos rfl] at hGiven ⊢
      exact hLanguage.mp hGiven
    · rw [field?_concat, field?_concat, if_neg hKey, if_neg hKey]
  · intro hDenotes
    refine hDenotes.of_sameLanguage ⟨_, rfl⟩ (fun hGiven => ?_) (fun key hKey => ?_)
    · rw [field?_concat, if_pos rfl] at hGiven ⊢
      exact hLanguage.mpr hGiven
    · rw [field?_concat, field?_concat, if_neg hKey, if_neg hKey]

/-! ### Sources -/

namespace Source

variable {source : Source}

theorem decodeText_eq_ok_iff {value : Value} {text : String} :
    Data.decodeText value = .ok text ↔ value = .string text := by
  constructor
  · intro h
    cases value with
    | string read =>
      obtain rfl := Except.ok.inj h
      rfl
    | _ => cases h
  · rintro rfl
    rfl

/-- A text is read from a field that is there and is a text. -/
theorem mapM_decodeText_eq_ok_iff {found : Option Value} {text : Option String} :
    found.mapM Data.decodeText = .ok text ↔ found = text.map Value.string := by
  cases found with
  | none =>
    constructor
    · intro h
      obtain rfl := Except.ok.inj h
      rfl
    · intro h
      cases text with
      | none => rfl
      | some text => cases h
  | some value =>
    constructor
    · intro h
      cases hText : Data.decodeText value with
      | error fault =>
        rw [Option.mapM_some, hText] at h
        cases h
      | ok read =>
        rw [Option.mapM_some, hText] at h
        obtain rfl := Except.ok.inj h
        exact congrArg some (decodeText_eq_ok_iff.mp hText)
    · intro h
      cases text with
      | none => cases h
      | some text =>
        obtain rfl := Option.some.inj h
        rfl

/-- A source is read from an object that holds texts under its two keys. -/
theorem decode_object_eq_ok_iff {fields : List (String × Value)} :
    decode (.object fields) = .ok source ↔
      (Value.object fields).field? "path" = some (.string source.path) ∧
      (Value.object fields).field? "code" = some (.string source.code) := by
  constructor
  · intro h
    obtain ⟨code?, hCode, h⟩ := Data.bind_eq_ok_iff.mp h
    obtain ⟨path?, hPath, h⟩ := Data.bind_eq_ok_iff.mp h
    rw [mapM_decodeText_eq_ok_iff] at hCode hPath
    split at h
    · obtain rfl := Except.ok.inj h
      exact ⟨hPath, hCode⟩
    · cases h
    · cases h
  · rintro ⟨hPath, hCode⟩
    rw [Value.field?] at hPath hCode
    rw [decode, decodeFields, hPath, hCode]
    rfl

/-- A source is read from a list of two texts. -/
theorem decode_array_eq_ok_iff {items : List Value} :
    decode (.array items) = .ok source ↔ items = [.string source.path, .string source.code] := by
  constructor
  · intro h
    match items, h with
    | [], h => cases h
    | [first], h =>
      obtain ⟨_, -, h⟩ := Data.bind_eq_ok_iff.mp h
      cases h
    | [first, second], h =>
      obtain ⟨path, hPath, h⟩ := Data.bind_eq_ok_iff.mp h
      obtain ⟨code, hCode, h⟩ := Data.bind_eq_ok_iff.mp h
      obtain rfl := Except.ok.inj h
      rw [decodeText_eq_ok_iff.mp hPath, decodeText_eq_ok_iff.mp hCode]
    | first :: second :: third :: rest, h =>
      obtain ⟨path, hPath, h⟩ := Data.bind_eq_ok_iff.mp h
      obtain ⟨code, hCode, h⟩ := Data.bind_eq_ok_iff.mp h
      cases h
  · rintro rfl
    rfl

/-- A value under each of the two keys. -/
theorem find?_pair (path code : Value) :
    (Table.ofList [("path", path), ("code", code)]).find? "path" = some path ∧
    (Table.ofList [("path", path), ("code", code)]).find? "code" = some code := by
  simp [Table.ofList, Table.insertAll, Table.find?_insert]

/-- A source is read from a list of two values just if it is from an object of the two. -/
theorem decode_pair_iff (path code : Value) :
    decode (.array [path, code]) = .ok source ↔
      decode (.object [("path", path), ("code", code)]) = .ok source := by
  obtain ⟨hPath, hCode⟩ := find?_pair path code
  rw [decode_array_eq_ok_iff, decode_object_eq_ok_iff, Value.field?, Value.field?, hPath, hCode]
  simp

/-- A source is read as it was written. -/
theorem decode_encode (source : Source) : decode source.encode = .ok source := by
  obtain ⟨hPath, hCode⟩ := find?_pair (.string source.path) (.string source.code)
  refine decode_object_eq_ok_iff.mpr ⟨?_, ?_⟩
  · exact (Value.field?_ofFields _ _).trans hPath
  · exact (Value.field?_ofFields _ _).trans hCode

/-- **Sources** are read as they were written, in the same order. -/
theorem decodeBatch_encodeBatch (sources : List Source) :
    decodeBatch (encodeBatch sources) = .ok sources := by
  show decodeAll (sources.map encode) = .ok sources
  induction sources with
  | nil => rfl
  | cons source rest ih =>
    rw [List.map_cons, decodeAll, decode_encode, ih]
    rfl

end Source

/-- **Lists and fields**: a list of at most four items is read as language options just if an
object with the items under the first of the four keys is, and to the same options; so analysis
options that hold the one or the other are the same, as are their dialects, grammars and flags.  A
longer list is refused.  A list of two values is read as a source just if an object of the two is,
and to the same source; lists of another length and objects without one of the keys are refused;
and sources are read as they were written, in the same order. -/
theorem list_form_agrees :
    (∀ items : List Value, items.length ≤ 4 →
      (∀ language, LanguageOptions.decode (.array items) = .ok language ↔
        LanguageOptions.decode (.object (languageKeys.zip items)) = .ok language) ∧
      ∀ fields : List (String × Value),
        let listed := Value.object (fields ++ [(Options.languageKey, .array items)])
        let named :=
          Value.object (fields ++ [(Options.languageKey, .object (languageKeys.zip items))])
        (∀ options, Options.decode listed = .ok options ↔ Options.decode named = .ok options) ∧
        ∀ a b, Options.decode listed = .ok a → Options.decode named = .ok b →
          Dialect.ofOptions a = Dialect.ofOptions b ∧
          Grammar.ofDialect (Dialect.ofOptions a) = Grammar.ofDialect (Dialect.ofOptions b) ∧
          ∀ name, (Dialect.ofOptions a).hasFeature name = (Dialect.ofOptions b).hasFeature name) ∧
    (∀ items : List Value, 4 < items.length →
      ∃ fault, LanguageOptions.decode (.array items) = .error fault) ∧
    (∀ path code source, Source.decode (.array [path, code]) = .ok source ↔
      Source.decode (.object [("path", path), ("code", code)]) = .ok source) ∧
    (∀ items : List Value, items.length ≠ 2 →
      ∃ fault, Source.decode (.array items) = .error fault) ∧
    (∀ fields : List (String × Value), (Value.object fields).field? "path" = none ∨
        (Value.object fields).field? "code" = none →
      ∃ fault, Source.decode (.object fields) = .error fault) ∧
    ∀ sources : List Source, Source.decodeBatch (Source.encodeBatch sources) = .ok sources := by
  refine ⟨fun items hShort => ⟨fun language => ?_, fun fields => ?_⟩, fun items hLong => ?_,
    fun path code source => Source.decode_pair_iff path code, fun items hLength => ?_,
    fun fields hMissing => ?_, Source.decodeBatch_encodeBatch⟩
  · rw [LanguageOptions.decode_eq_ok_iff, LanguageOptions.decode_eq_ok_iff]
    exact denotesLanguage_zip_iff hShort language
  · intro listed named
    have hSame : ∀ options,
        Options.decode listed = .ok options ↔ Options.decode named = .ok options := by
      intro options
      rw [Options.decode_eq_ok_iff_denotes, Options.decode_eq_ok_iff_denotes]
      exact denotesOptions_zip_iff fields hShort options
    refine ⟨hSame, fun a b hListed hNamed => ?_⟩
    rw [(hSame a).mp hListed] at hNamed
    obtain rfl := Except.ok.inj hNamed
    exact ⟨rfl, rfl, fun name => rfl⟩
  · refine Data.exists_error_of_forall_ne_ok fun language h => ?_
    obtain ⟨hShort, -⟩ := LanguageOptions.decodeItems_eq_ok_iff.mp h
    omega
  · refine Data.exists_error_of_forall_ne_ok fun source h => ?_
    rw [Source.decode_array_eq_ok_iff.mp h] at hLength
    exact hLength rfl
  · refine Data.exists_error_of_forall_ne_ok fun source h => ?_
    obtain ⟨hPath, hCode⟩ := Source.decode_object_eq_ok_iff.mp h
    rw [hPath, hCode] at hMissing
    simp at hMissing

/-- Language options of which the last is null and the version comes first. -/
def mixedItems : List Value := [.int 2020, .object [("module", .null)], .bool true, .null]

/-- What is read from them. -/
def ofMixedItems : LanguageOptions where
  version := some 2020
  sourceType := some .module
  tolerant := some true

/-- The list is read, the fields are read alike, also inside of analysis options; a fifth item is
one too many, and so is a source without code. -/
theorem list_form_agrees_of_mixedItems :
    mixedItems.length ≤ 4 ∧
    LanguageOptions.decode (.object (languageKeys.zip mixedItems)) = .ok ofMixedItems ∧
    Options.decode (.object [(Options.languageKey, .object (languageKeys.zip mixedItems))]) =
      .ok { language := some ofMixedItems } ∧
    4 < (mixedItems ++ [Value.null]).length ∧
    (∃ fault, LanguageOptions.decode (.array (mixedItems ++ [Value.null])) = .error fault) ∧
    (∃ fault, Source.decode (.array [.string "/foo.js"]) = .error fault) ∧
    ∃ fault, Source.decode (.object [("path", .string "/foo.js")]) = .error fault := by
  obtain ⟨hForms, hLong, -, hOther, hMissing, -⟩ := list_form_agrees
  have hShort : mixedItems.length ≤ 4 := by decide
  obtain ⟨hLanguage, hOptions⟩ := hForms mixedItems hShort
  obtain ⟨hNamed, -⟩ := hOptions []
  exact ⟨hShort, (hLanguage _).mp rfl, (hNamed _).mp rfl, by decide, hLong _ (by decide),
    hOther _ (by decide), hMissing _ (Or.inr rfl)⟩

end ScriptAnalysis
