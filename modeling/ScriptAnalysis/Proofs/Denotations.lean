import ScriptAnalysis.Proofs.RoundTrip

/-!
# What values denote

Which options a value stands for is said here by the form of the value alone.  A flag is a boolean,
a version an integer of 32 bits, a source type its name or an object whose only key is the name and
holds null, a table of flags an object of booleans.  What may be left out may also be null.
Language options are an object or a list of at most four items, analysis options an object.

* `decodeFlag_eq_ok_iff`, `decodeVersion_eq_ok_iff`, `SourceType.decode_eq_ok_iff`,
  `Features.decode_eq_ok_iff`, `LanguageOptions.decode_eq_ok_iff`: each is read just as it is
  denoted.
* `Options.decode_eq_ok_iff_denotes`: so are analysis options.
-/

namespace ScriptAnalysis

open Data (DecodeError Table Value decodeFlag decodeOptional)

namespace Data

/-- A sequence of two readings succeeds just if both do. -/
theorem bind_eq_ok_iff {α β : Type} {first : Except DecodeError α}
    {next : α → Except DecodeError β} {result : β} :
    (first >>= next) = .ok result ↔ ∃ value, first = .ok value ∧ next value = .ok result := by
  cases first with
  | error fault =>
    constructor
    · intro h
      cases h
    · rintro ⟨value, h, -⟩
      cases h
  | ok value =>
    constructor
    · intro h
      exact ⟨value, rfl, h⟩
    · rintro ⟨_, hFirst, hNext⟩
      obtain rfl := Except.ok.inj hFirst
      exact hNext

end Data

/-! ### Objects of one entry -/

namespace Data.Value

/-- Whether an object holds something under one key, and nothing else. -/
def HoldsOnly (value : Value) (name : String) (content : Value) : Prop :=
  ∀ key, value.field? key = if key = name then some content else none

namespace HoldsOnly

variable {value content : Value} {name : String}

theorem found (h : value.HoldsOnly name content) : value.field? name = some content :=
  (h name).trans (if_pos rfl)

theorem eq_of_found (h : value.HoldsOnly name content) {key : String} {part : Value}
    (hPart : value.field? key = some part) : key = name ∧ part = content := by
  rw [h key] at hPart
  split at hPart
  · rename_i hKey
    exact ⟨hKey, (Option.some.inj hPart).symm⟩
  · cases hPart

end HoldsOnly

end Data.Value

/-! ### Denotations -/

/-- The option that a value denotes which may be left out or null. -/
inductive DenotesOptional {α : Type} (denotes : Value → α → Prop) : Option Value → Option α → Prop
  | absent : DenotesOptional denotes none none
  | null : DenotesOptional denotes (some .null) none
  | present {found : Value} {option : α} (given : denotes found option) :
      DenotesOptional denotes (some found) (some option)

def DenotesFlag (value : Value) (flag : Bool) : Prop := value = .bool flag

/-- An integer of 32 bits denotes a version. -/
def DenotesVersion (value : Value) (version : UInt32) : Prop := value = .int version.toNat

/-- A name denotes a source type, alone or as the only key of an object that holds null there. -/
inductive DenotesSourceType : Value → SourceType → Prop
  | name (sourceType : SourceType) : DenotesSourceType (.string sourceType.name) sourceType
  | key {fields : List (String × Value)} {sourceType : SourceType}
      (only : (Value.object fields).HoldsOnly sourceType.name .null) :
      DenotesSourceType (.object fields) sourceType

/-- An object of booleans denotes the flags that are its entries. -/
inductive DenotesFeatures : Value → Features → Prop
  | object {fields : List (String × Value)} {features : Features}
      (entries : ∀ key, (Value.object fields).field? key = (features.find? key).map Value.bool) :
      DenotesFeatures (.object fields) features

/-- Four values that may be left out denote language options. -/
structure DenotesSlots (version sourceType tolerant features : Option Value)
    (language : LanguageOptions) : Prop where
  version : DenotesOptional DenotesVersion version language.version
  sourceType : DenotesOptional DenotesSourceType sourceType language.sourceType
  tolerant : DenotesOptional DenotesFlag tolerant language.tolerant
  features : DenotesOptional DenotesFeatures features language.features

/-- An object denotes language options by four of its fields, a list by its items. -/
inductive DenotesLanguage : Value → LanguageOptions → Prop
  | object {fields : List (String × Value)} {language : LanguageOptions}
      (slots : DenotesSlots ((Value.object fields).field? "ecmaVersion")
        ((Value.object fields).field? "sourceType") ((Value.object fields).field? "tolerant")
        ((Value.object fields).field? "ecmaFeatures") language) :
      DenotesLanguage (.object fields) language
  | array {items : List Value} {language : LanguageOptions} (short : items.length ≤ 4)
      (slots : DenotesSlots items[0]? items[1]? items[2]? items[3]? language) :
      DenotesLanguage (.array items) language

/-- The failure policy that a value denotes which may be left out, but not null. -/
inductive DenotesPolicy : Option Value → Bool → Prop
  | absent : DenotesPolicy none false
  | present {found : Value} {flag : Bool} (given : DenotesFlag found flag) :
      DenotesPolicy (some found) flag

/-- An object denotes analysis options: those under the two known keys, and each entry under another
one for the scoring engine. -/
structure DenotesOptions (value : Value) (options : Options) : Prop where
  isObject : ∃ fields, value = .object fields
  language : DenotesOptional DenotesLanguage (value.field? Options.languageKey) options.language
  ignoreErrors : DenotesPolicy (value.field? Options.ignoreErrorsKey) options.ignoreErrors
  extra : ∀ key, options.extra.find? key =
    if key = Options.languageKey ∨ key = Options.ignoreErrorsKey then none else value.field? key

/-! ### Reading what is denoted -/

/-- What may be left out is read as it is denoted, if nothing is denoted by null. -/
theorem decodeOptional_eq_ok_iff {α : Type} {decode : Value → Except DecodeError α}
    {denotes : Value → α → Prop} (hDecode : ∀ found x, decode found = .ok x ↔ denotes found x)
    (hNull : ∀ x, ¬denotes .null x) {found : Option Value} {option : Option α} :
    decodeOptional decode found = .ok option ↔ DenotesOptional denotes found option := by
  constructor
  · intro h
    cases found with
    | none =>
      obtain rfl := Except.ok.inj h
      exact .absent
    | some found =>
      by_cases hFound : found = .null
      · subst hFound
        obtain rfl := Except.ok.inj h
        exact .null
      · rw [Data.decodeOptional_of_ne_null hFound] at h
        cases hRead : decode found with
        | error fault =>
          rw [hRead] at h
          cases h
        | ok x =>
          rw [hRead] at h
          obtain rfl := Except.ok.inj h
          exact .present ((hDecode found x).mp hRead)
  · intro h
    cases h with
    | absent => rfl
    | null => rfl
    | @present given x hGiven =>
      have hPresent : given ≠ .null := by
        rintro rfl
        exact hNull x hGiven
      rw [Data.decodeOptional_of_ne_null hPresent, (hDecode given x).mpr hGiven]
      rfl

theorem decodeFlag_eq_ok_iff (value : Value) (flag : Bool) :
    decodeFlag value = .ok flag ↔ DenotesFlag value flag := by
  constructor
  · intro h
    cases value with
    | bool read =>
      obtain rfl := Except.ok.inj h
      rfl
    | _ => cases h
  · rintro rfl
    rfl

theorem decodeVersion_eq_ok_iff (value : Value) (version : UInt32) :
    decodeVersion value = .ok version ↔ DenotesVersion value version := by
  constructor
  · intro h
    cases value with
    | int n =>
      rw [decodeVersion] at h
      split at h
      · rename_i hRange
        obtain rfl := Except.ok.inj h
        have hNat : (UInt32.ofNat n.toNat).toNat = n.toNat := UInt32.toNat_ofNat_of_lt hRange.2
        rw [DenotesVersion, hNat, Int.toNat_of_nonneg hRange.1]
      · cases h
    | _ => cases h
  · rintro rfl
    exact decodeVersion_toNat version

theorem SourceType.ofName_eq_ok_iff {name : String} {sourceType : SourceType} :
    SourceType.ofName name = .ok sourceType ↔ name = sourceType.name := by
  constructor
  · intro h
    unfold ofName at h
    split at h
    · obtain rfl := Except.ok.inj h
      rfl
    · obtain rfl := Except.ok.inj h
      rfl
    · cases h
  · rintro rfl
    cases sourceType <;> rfl

theorem SourceType.decode_eq_ok_iff (value : Value) (sourceType : SourceType) :
    SourceType.decode value = .ok sourceType ↔ DenotesSourceType value sourceType := by
  constructor
  · intro h
    cases value with
    | string name =>
      obtain rfl := ofName_eq_ok_iff.mp h
      exact .name sourceType
    | object fields =>
      rw [decode] at h
      split at h
      · rename_i name content hEntries
        obtain ⟨named, hName, hContent⟩ := Data.bind_eq_ok_iff.mp h
        obtain rfl := ofName_eq_ok_iff.mp hName
        split at hContent
        · obtain rfl := Except.ok.inj hContent
          exact .key (Table.entries_eq_singleton_iff.mp hEntries)
        · cases hContent
      · cases h
    | _ => cases h
  · intro h
    cases h with
    | name => exact ofName_eq_ok_iff.mpr rfl
    | key only =>
      have hEntries := Table.entries_eq_singleton_iff.mpr only
      rw [decode, hEntries]
      exact Data.bind_eq_ok_iff.mpr ⟨sourceType, ofName_eq_ok_iff.mpr rfl, rfl⟩

/-- Flags are read from entries that are all booleans. -/
theorem decodeFlags_eq_ok_iff {entries : List (String × Value)} {flags : List (String × Bool)} :
    decodeFlags entries = .ok flags ↔
      entries = flags.map fun entry => (entry.1, .bool entry.2) := by
  constructor
  · intro h
    induction entries generalizing flags with
    | nil =>
      obtain rfl := Except.ok.inj h
      rfl
    | cons head rest ih =>
      obtain ⟨name, found⟩ := head
      obtain ⟨flag, hFlag, hRest⟩ := Data.bind_eq_ok_iff.mp h
      obtain ⟨others, hOthers, hFlags⟩ := Data.bind_eq_ok_iff.mp hRest
      obtain rfl := Except.ok.inj hFlags
      obtain rfl := (decodeFlag_eq_ok_iff found flag).mp hFlag
      rw [ih hOthers, List.map_cons]
  · rintro rfl
    exact decodeFlags_map flags

/-- A table of booleans holds the same at each key as a table of flags just if its entries do. -/
theorem entries_eq_map_iff {table : Table Value} {features : Features} :
    table.entries = (features.entries.map fun entry => (entry.1, Value.bool entry.2)) ↔
      ∀ key, table.find? key = (features.find? key).map Value.bool := by
  have hLookup : ∀ (key : String) (flags : List (String × Bool)),
      (flags.map fun entry => (entry.1, Value.bool entry.2)).lookup key =
        (flags.lookup key).map Value.bool := by
    intro key flags
    induction flags with
    | nil => rfl
    | cons head rest ih =>
      rw [List.map_cons, Table.lookup_entry_cons, ih, Table.lookup_entry_cons]
      split <;> rfl
  constructor
  · intro h key
    rw [Table.find?, h]
    exact hLookup key features.entries
  · intro h
    have hTable : table = ⟨features.entries.map fun entry => (entry.1, Value.bool entry.2),
        List.pairwise_map.mpr features.ascending⟩ :=
      Table.ext_find? fun key => (h key).trans (hLookup key features.entries).symm
    rw [hTable]

theorem Features.decode_eq_ok_iff (value : Value) (features : Features) :
    Features.decode value = .ok features ↔ DenotesFeatures value features := by
  constructor
  · intro h
    cases value with
    | object fields =>
      rw [decode] at h
      cases hFlags : decodeFlags (Table.ofList fields).entries with
      | error fault =>
        rw [hFlags] at h
        cases h
      | ok flags =>
        rw [hFlags] at h
        obtain rfl := Except.ok.inj h
        have hEntries := decodeFlags_eq_ok_iff.mp hFlags
        have hAscending : flags.Pairwise fun a b => a.1 < b.1 := by
          have hFields := (Table.ofList fields).ascending
          rw [hEntries] at hFields
          have hFlags := List.pairwise_map.mp hFields
          exact hFlags
        have hTable : Table.ofList flags = ⟨flags, hAscending⟩ :=
          Table.ofList_entries ⟨flags, hAscending⟩
        refine .object (entries_eq_map_iff.mp ?_)
        rw [hTable]
        exact hEntries
    | _ => cases h
  · intro h
    cases h with
    | object entries =>
      rw [decode, entries_eq_map_iff.mpr entries, decodeFlags_map]
      exact congrArg Except.ok (Table.ofList_entries features)

/-! ### Language options -/

section Slots

variable {found : Option Value}

theorem optionalVersion_eq_ok_iff {version : Option UInt32} :
    decodeOptional decodeVersion found = .ok version ↔
      DenotesOptional DenotesVersion found version :=
  decodeOptional_eq_ok_iff decodeVersion_eq_ok_iff fun _ h => nomatch h

theorem optionalSourceType_eq_ok_iff {sourceType : Option SourceType} :
    decodeOptional SourceType.decode found = .ok sourceType ↔
      DenotesOptional DenotesSourceType found sourceType :=
  decodeOptional_eq_ok_iff SourceType.decode_eq_ok_iff fun _ h => nomatch h

theorem optionalFlag_eq_ok_iff {flag : Option Bool} :
    decodeOptional decodeFlag found = .ok flag ↔ DenotesOptional DenotesFlag found flag :=
  decodeOptional_eq_ok_iff decodeFlag_eq_ok_iff fun _ h => nomatch h

theorem optionalFeatures_eq_ok_iff {features : Option Features} :
    decodeOptional Features.decode found = .ok features ↔
      DenotesOptional DenotesFeatures found features :=
  decodeOptional_eq_ok_iff Features.decode_eq_ok_iff fun _ h => nomatch h

end Slots

namespace LanguageOptions

variable {language : LanguageOptions}

theorem decodeFields_eq_ok_iff {table : Table Value} :
    decodeFields table = .ok language ↔
      DenotesSlots (table.find? "ecmaVersion") (table.find? "sourceType") (table.find? "tolerant")
        (table.find? "ecmaFeatures") language := by
  constructor
  · intro h
    obtain ⟨features, hFeatures, h⟩ := Data.bind_eq_ok_iff.mp h
    obtain ⟨version, hVersion, h⟩ := Data.bind_eq_ok_iff.mp h
    obtain ⟨sourceType, hSource, h⟩ := Data.bind_eq_ok_iff.mp h
    obtain ⟨tolerant, hTolerant, h⟩ := Data.bind_eq_ok_iff.mp h
    obtain rfl := Except.ok.inj h
    exact ⟨optionalVersion_eq_ok_iff.mp hVersion, optionalSourceType_eq_ok_iff.mp hSource,
      optionalFlag_eq_ok_iff.mp hTolerant, optionalFeatures_eq_ok_iff.mp hFeatures⟩
  · intro h
    rw [decodeFields, optionalFeatures_eq_ok_iff.mpr h.features,
      optionalVersion_eq_ok_iff.mpr h.version, optionalSourceType_eq_ok_iff.mpr h.sourceType,
      optionalFlag_eq_ok_iff.mpr h.tolerant]
    rfl

theorem decodeItems_eq_ok_iff {items : List Value} :
    decodeItems items = .ok language ↔
      items.length ≤ 4 ∧ DenotesSlots items[0]? items[1]? items[2]? items[3]? language := by
  constructor
  · intro h
    obtain ⟨version, hVersion, h⟩ := Data.bind_eq_ok_iff.mp h
    obtain ⟨sourceType, hSource, h⟩ := Data.bind_eq_ok_iff.mp h
    obtain ⟨tolerant, hTolerant, h⟩ := Data.bind_eq_ok_iff.mp h
    obtain ⟨features, hFeatures, h⟩ := Data.bind_eq_ok_iff.mp h
    split at h
    · cases h
    · rename_i hShort
      obtain rfl := Except.ok.inj h
      exact ⟨Nat.le_of_not_lt hShort, optionalVersion_eq_ok_iff.mp hVersion,
        optionalSourceType_eq_ok_iff.mp hSource, optionalFlag_eq_ok_iff.mp hTolerant,
        optionalFeatures_eq_ok_iff.mp hFeatures⟩
  · rintro ⟨hShort, h⟩
    rw [decodeItems, optionalVersion_eq_ok_iff.mpr h.version,
      optionalSourceType_eq_ok_iff.mpr h.sourceType, optionalFlag_eq_ok_iff.mpr h.tolerant,
      optionalFeatures_eq_ok_iff.mpr h.features]
    exact if_neg (Nat.not_lt.mpr hShort)

/-- **Language options** are read from a value just as it denotes them. -/
theorem decode_eq_ok_iff (value : Value) (language : LanguageOptions) :
    decode value = .ok language ↔ DenotesLanguage value language := by
  constructor
  · intro h
    cases value with
    | object fields => exact .object (decodeFields_eq_ok_iff.mp h)
    | array items =>
      obtain ⟨hShort, hSlots⟩ := decodeItems_eq_ok_iff.mp h
      exact .array hShort hSlots
    | _ => cases h
  · intro h
    cases h with
    | object slots => exact decodeFields_eq_ok_iff.mpr slots
    | array short slots => exact decodeItems_eq_ok_iff.mpr ⟨short, slots⟩

end LanguageOptions

/-! ### Analysis options -/

theorem Options.decodePolicy_eq_ok_iff {found : Option Value} {flag : Bool} :
    Options.decodePolicy found = .ok flag ↔ DenotesPolicy found flag := by
  constructor
  · intro h
    cases found with
    | none =>
      obtain rfl := Except.ok.inj h
      exact .absent
    | some found => exact .present ((decodeFlag_eq_ok_iff found flag).mp h)
  · intro h
    cases h with
    | absent => rfl
    | present given => exact (decodeFlag_eq_ok_iff _ flag).mpr given

/-- **Analysis options** are read from a value just as it denotes them. -/
theorem Options.decode_eq_ok_iff_denotes (value : Value) (options : Options) :
    Options.decode value = .ok options ↔ DenotesOptions value options := by
  have hLanguage : decodeOptional LanguageOptions.decode (value.field? languageKey) =
      .ok options.language ↔ _ :=
    decodeOptional_eq_ok_iff LanguageOptions.decode_eq_ok_iff fun _ h => nomatch h
  rw [decode_eq_ok_iff, hLanguage, decodePolicy_eq_ok_iff]
  constructor
  · rintro ⟨hObject, hGiven, hPolicy, hExtra⟩
    exact ⟨hObject, hGiven, hPolicy, hExtra⟩
  · intro h
    exact ⟨h.isObject, h.language, h.ignoreErrors, h.extra⟩

end ScriptAnalysis
