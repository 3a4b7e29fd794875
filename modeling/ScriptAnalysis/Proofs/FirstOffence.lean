import ScriptAnalysis.Proofs.Offences

/-!
# The first offence is reported

Options are read in one pass that gives up at the first fault.  Each reader succeeds just if
nothing offends, and reports the offence at the first place otherwise.  Readers in sequence keep
that, as long as each reads a part that is visited before those that are read after it.

* `Blames.bindBelow`: a part is read before those that follow it.
* `LanguageOptions.blames_language`, `Options.blames_options`: of language options and of analysis
  options the first offence is reported.
* `decode_first_offence`: what is read from a value, and which offence is reported.
-/

namespace ScriptAnalysis

namespace Data

/-! ### Readings -/

/-- A reading that succeeds if nothing offends, and reports the first offence otherwise. -/
structure Blames {α : Type} (result : Except DecodeError α)
    (offends : Place → DecodeError → Prop) : Prop where
  none_of_ok : ∀ value, result = .ok value → ∀ place fault, ¬offends place fault
  first_of_error : ∀ fault, result = .error fault → ∃ place, IsFirst offends place fault

namespace Blames

variable {α β : Type} {offends later : Place → DecodeError → Prop}

theorem ok {value : α} (h : ∀ place fault, ¬offends place fault) :
    Blames (.ok value : Except DecodeError α) offends where
  none_of_ok _ _ := h
  first_of_error fault hFault := by cases hFault

theorem error {place : Place} {fault : DecodeError} (h : IsFirst offends place fault) :
    Blames (.error fault : Except DecodeError α) offends where
  none_of_ok value hValue := by cases hValue
  first_of_error found hFound := by
    obtain rfl := Except.error.inj hFound
    exact ⟨place, h⟩

theorem congr {result : Except DecodeError α} (h : Blames result offends)
    (hSame : ∀ place fault, later place fault ↔ offends place fault) : Blames result later := by
  have hEq : later = offends := funext fun place => funext fun fault => propext (hSame place fault)
  rw [hEq]
  exact h

/-- **Of two readings** in sequence, the second of places that come later, the first offence is
reported. -/
theorem bind {first : Except DecodeError α} {next : α → Except DecodeError β}
    (hFirst : Blames first offends) (hNext : ∀ value, Blames (next value) later)
    (hBefore : ∀ place fault other found, offends place fault → later other found →
      Place.Before place other) :
    Blames (first >>= next) fun place fault => offends place fault ∨ later place fault := by
  cases hResult : first with
  | error fault =>
    obtain ⟨place, hOffends, hAll⟩ := hFirst.first_of_error fault hResult
    have hEither :
        IsFirst (fun place fault => offends place fault ∨ later place fault) place fault := by
      refine ⟨Or.inl hOffends, ?_⟩
      intro other found hOther
      rcases hOther with hOther | hOther
      · exact hAll other found hOther
      · exact Or.inr (hBefore place fault other found hOffends hOther)
    exact error hEither
  | ok value =>
    refine (hNext value).congr fun place fault => ?_
    exact or_iff_right (hFirst.none_of_ok value hResult place fault)

/-- A result that is made of what was read is no further reading. -/
theorem bindOk {result : Except DecodeError α} (h : Blames result offends) (make : α → β) :
    Blames (result >>= fun value => .ok (make value)) offends := by
  cases hResult : result with
  | error fault =>
    obtain ⟨place, hFirst⟩ := h.first_of_error fault hResult
    exact error hFirst
  | ok value => exact ok (h.none_of_ok value hResult)

theorem map {result : Except DecodeError α} (h : Blames result offends) (make : α → β) :
    Blames (result.map make) offends := by
  have hBind : result.map make = (result >>= fun value => .ok (make value)) :=
    map_eq_pure_bind make result
  rw [hBind]
  exact h.bindOk make

end Blames

/-- Offences of the part that a step leads to. -/
def Below (step : Step) (offends : Place → DecodeError → Prop) (place : Place)
    (fault : DecodeError) : Prop :=
  ∃ inner, place = step :: inner ∧ offends inner fault

/-- The first offence of a part is the first of them in the whole. -/
theorem Blames.below {α : Type} {result : Except DecodeError α}
    {offends : Place → DecodeError → Prop} (h : Blames result offends) (step : Step) :
    Blames result (Below step offends) where
  none_of_ok value hValue place fault hBelow := by
    obtain ⟨inner, -, hOffends⟩ := hBelow
    exact h.none_of_ok value hValue inner fault hOffends
  first_of_error fault hFault := by
    obtain ⟨place, hOffends, hAll⟩ := h.first_of_error fault hFault
    refine ⟨step :: place, ⟨place, rfl, hOffends⟩, ?_⟩
    intro other found hOther
    obtain ⟨inner, rfl, hInner⟩ := hOther
    rcases hAll inner found hInner with ⟨rfl, rfl⟩ | hBefore
    · exact Or.inl ⟨rfl, rfl⟩
    · exact Or.inr (List.Lex.cons hBefore)

/-- Offences all of which are at places that begin after a step. -/
def Follow (step : Step) (later : Place → DecodeError → Prop) : Prop :=
  ∀ place fault, later place fault → ∃ next rest, place = next :: rest ∧ step.Before next

theorem Follow.below {step next : Step} (h : step.Before next)
    (offends : Place → DecodeError → Prop) : Follow step (Below next offends) := by
  intro place fault hBelow
  obtain ⟨rest, rfl, -⟩ := hBelow
  exact ⟨next, rest, rfl, h⟩

theorem Follow.or {step : Step} {first second : Place → DecodeError → Prop}
    (hFirst : Follow step first) (hSecond : Follow step second) :
    Follow step fun place fault => first place fault ∨ second place fault := by
  intro place fault hEither
  rcases hEither with h | h
  · exact hFirst place fault h
  · exact hSecond place fault h

/-- **A part is read** before those that follow it. -/
theorem Blames.bindBelow {α β : Type} {first : Except DecodeError α}
    {next : α → Except DecodeError β} {offends later : Place → DecodeError → Prop}
    (hFirst : Blames first offends) (step : Step) (hNext : ∀ value, Blames (next value) later)
    (hFollow : Follow step later) :
    Blames (first >>= next) fun place fault =>
      Below step offends place fault ∨ later place fault := by
  refine (hFirst.below step).bind hNext ?_
  intro place fault other found hPlace hOther
  obtain ⟨inner, rfl, -⟩ := hPlace
  obtain ⟨second, rest, rfl, hBefore⟩ := hFollow other found hOther
  exact List.Lex.rel hBefore

/-- The offences of a value that stands where something is wanted and may be left out or null. -/
def OffendsGiven (wanted : Wanted) (found : Option Value) (place : Place) (fault : DecodeError) :
    Prop :=
  ∃ value, found = some value ∧ value ≠ .null ∧ Offends wanted value place fault

/-- What offends a part that may be null offends the whole. -/
theorem offends_of_given {wanted inner : Wanted} {value : Value} {step : Step} {place : Place}
    {fault : DecodeError} (asked : wanted.ofPart? step = some (inner, true))
    (h : Below step (OffendsGiven inner (value.part? step)) place fault) :
    Offends wanted value place fault := by
  obtain ⟨rest, rfl, part, hPart, hPresent, hOffends⟩ := h
  exact .part asked hPart (fun hNull => hPresent hNull.2) hOffends

/-- An offence of a part that may be null is one of what is given there. -/
theorem below_of_part {inner : Wanted} {value part : Value} {step : Step} {place : Place}
    {fault : DecodeError} (found : value.part? step = some part)
    (given : ¬(true = true ∧ part = .null)) (offends : Offends inner part place fault) :
    Below step (OffendsGiven inner (value.part? step)) (step :: place) fault :=
  ⟨place, rfl, part, found, fun hNull => given ⟨rfl, hNull⟩, offends⟩

theorem blames_optional {α : Type} {decode : Value → Except DecodeError α} {wanted : Wanted}
    (h : ∀ value, Blames (decode value) (Offends wanted value)) (found : Option Value) :
    Blames (decodeOptional decode found) (OffendsGiven wanted found) := by
  cases found with
  | none =>
    refine .ok fun place fault hGiven => ?_
    obtain ⟨value, hNone, -, -⟩ := hGiven
    cases hNone
  | some value =>
    by_cases hNull : value = .null
    · subst hNull
      refine .ok fun place fault hGiven => ?_
      obtain ⟨value, hSome, hPresent, -⟩ := hGiven
      obtain rfl := Option.some.inj hSome
      exact hPresent rfl
    · rw [decodeOptional_of_ne_null hNull]
      refine ((h value).map some).congr fun place fault => ⟨fun hGiven => ?_, fun hOffends => ?_⟩
      · obtain ⟨given, hSome, -, hOffends⟩ := hGiven
        obtain rfl := Option.some.inj hSome
        exact hOffends
      · exact ⟨value, rfl, hNull, hOffends⟩

end Data

open Data

/-! ### Flags, versions, source types and features -/

theorem blames_flag (value : Value) : Blames (decodeFlag value) (Offends .boolean value) := by
  cases value with
  | bool flag =>
    refine .ok fun place fault h => ?_
    cases h with
    | kind other => cases other
    | part asked found given offends => cases asked
  | _ => exact .error (isFirst_of_not_admits rfl)

theorem blames_version (value : Value) : Blames (decodeVersion value) (Offends .version value) := by
  cases value with
  | int n =>
    rw [decodeVersion]
    split
    · rename_i hRange
      refine .ok fun place fault h => ?_
      cases h with
      | kind other => cases other
      | range outside => omega
      | part asked found given offends => cases asked
    · rename_i hRange
      have hOutside : n < 0 ∨ UInt32.size ≤ n := by omega
      have hFirst : IsFirst (Offends .version (.int n)) [] (.versionOutOfRange n) := by
        refine ⟨.range hOutside, ?_⟩
        intro other found hOther
        cases hOther with
        | kind other => cases other
        | range outside => exact Or.inl ⟨rfl, rfl⟩
        | part asked found given offends => cases asked
      exact .error hFirst
  | _ => exact .error (isFirst_of_not_admits rfl)

/-- Entries are read up to the first that is no flag. -/
theorem blames_flags {entries : List (String × Value)}
    (h : entries.Pairwise fun a b => a.1 < b.1) :
    Blames (decodeFlags entries) fun place fault =>
      ∃ name value, (name, value) ∈ entries ∧
        Below (.key name) (Offends .boolean value) place fault := by
  induction entries with
  | nil =>
    refine .ok fun place fault hOffends => ?_
    obtain ⟨name, value, hMem, -⟩ := hOffends
    cases hMem
  | cons head rest ih =>
    obtain ⟨first, found⟩ := head
    obtain ⟨hHead, hRest⟩ := List.pairwise_cons.mp h
    have hFollow : Follow (.key first) fun place fault => ∃ name value, (name, value) ∈ rest ∧
        Below (.key name) (Offends .boolean value) place fault := by
      intro place fault h
      obtain ⟨name, value, hMem, inner, rfl, -⟩ := h
      exact ⟨.key name, inner, rfl, .keys (hHead (name, value) hMem)⟩
    have hSequence := (blames_flag found).bindBelow (.key first)
      (fun flag => (ih hRest).bindOk fun flags => (first, flag) :: flags) hFollow
    refine hSequence.congr fun place fault => ?_
    simp only [List.mem_cons, Prod.mk.injEq]
    constructor
    · rintro ⟨name, value, ⟨rfl, rfl⟩ | hMem, hBelow⟩
      · exact Or.inl hBelow
      · exact Or.inr ⟨name, value, hMem, hBelow⟩
    · rintro (hBelow | ⟨name, value, hMem, hBelow⟩)
      · exact ⟨first, found, Or.inl ⟨rfl, rfl⟩, hBelow⟩
      · exact ⟨name, value, Or.inr hMem, hBelow⟩

theorem Features.blames_features (value : Value) :
    Blames (Features.decode value) (Offends .map value) := by
  cases value with
  | object fields =>
    have hFlags := (blames_flags (Table.ofList fields).ascending).map Table.ofList
    rw [decode]
    refine hFlags.congr fun place fault => ⟨fun h => ?_, fun h => ?_⟩
    · cases h with
      | kind other => cases other
      | @part _ inner nullable _ part step place _ asked found given offends =>
        cases step with
        | item index => cases asked
        | key name =>
          obtain ⟨rfl, rfl⟩ := Prod.mk.inj (Option.some.inj asked)
          exact ⟨name, part, Table.mem_entries_iff.mpr found, place, rfl, offends⟩
    · obtain ⟨name, value, hMem, inner, rfl, hOffends⟩ := h
      exact offends_of_required rfl (Table.mem_entries_iff.mp hMem) hOffends
  | _ => exact .error (isFirst_of_not_admits rfl)

namespace SourceType

theorem ofName_of_unknown {name : String} (h : IsUnknownName name) :
    ofName name = .error (.unknownSourceType name) := by
  unfold ofName
  split
  · exact absurd rfl (h .script)
  · exact absurd rfl (h .module)
  · rfl

/-- A name is refused as a whole if no source type has it. -/
theorem blames_ofName (name : String) :
    Blames (ofName name) fun place fault =>
      place = [] ∧ fault = .unknownSourceType name ∧ IsUnknownName name := by
  by_cases hKnown : ∃ sourceType : SourceType, name = sourceType.name
  · obtain ⟨sourceType, hName⟩ := hKnown
    rw [ofName_eq_ok_iff.mpr hName]
    exact .ok fun place fault h => h.2.2 sourceType hName
  · have hUnknown : IsUnknownName name := fun sourceType hName => hKnown ⟨sourceType, hName⟩
    rw [ofName_of_unknown hUnknown]
    refine Blames.error ⟨⟨rfl, rfl, hUnknown⟩, fun other found h => ?_⟩
    exact Or.inl ⟨h.1, h.2.1⟩

/-- What a name holds in an object must be null. -/
theorem blames_unit (sourceType : SourceType) (content : Value) :
    Blames (match content with
      | .null => (return sourceType : Except DecodeError SourceType)
      | found => .error (.wrongType found .unit)) (Offends .unit content) := by
  cases content with
  | null =>
    refine .ok fun place fault h => ?_
    cases h with
    | kind other => cases other
    | part asked found given offends => cases asked
  | _ => exact .error (isFirst_of_not_admits rfl)

theorem blames_sourceType (value : Value) :
    Blames (SourceType.decode value) (Offends .textOrMap value) := by
  cases value with
  | string name =>
    refine (blames_ofName name).congr fun place fault => ⟨fun h => ?_, fun h => ?_⟩
    · cases h with
      | kind other => cases other
      | name unknown => exact ⟨rfl, rfl, unknown⟩
      | part asked found given offends => cases found
    · obtain ⟨rfl, rfl, hUnknown⟩ := h
      exact .name hUnknown
  | object fields =>
    rw [decode]
    split
    · rename_i name content hEntries
      have hOnly : (Value.object fields).HoldsOnly name content :=
        Table.entries_eq_singleton_iff.mp hEntries
      have hContent : ∀ sourceType, Blames _ _ :=
        fun sourceType => (blames_unit sourceType content).below (.key name)
      refine ((blames_ofName name).bind hContent ?_).congr fun place fault =>
        ⟨fun h => ?_, fun h => ?_⟩
      · rintro place fault other found ⟨rfl, -, -⟩ ⟨inner, rfl, -⟩
        exact List.Lex.nil
      · cases h with
        | kind other => cases other
        | key only unknown =>
          obtain ⟨rfl, rfl⟩ := hOnly.eq_of_found only.found
          exact Or.inl ⟨rfl, rfl, unknown⟩
        | keys several => exact absurd ⟨name, content, hOnly⟩ several
        | @part _ _ _ _ part step _ _ asked found given offends =>
          cases step with
          | item index => cases asked
          | key other =>
            obtain ⟨rfl, rfl⟩ := Prod.mk.inj (Option.some.inj asked)
            obtain ⟨rfl, rfl⟩ := hOnly.eq_of_found found
            exact Or.inr ⟨_, rfl, offends⟩
      · rcases h with ⟨rfl, rfl, hUnknown⟩ | ⟨inner, rfl, hOffends⟩
        · exact .key hOnly hUnknown
        · exact offends_of_required rfl hOnly.found hOffends
    · rename_i hEntries
      have hSeveral : ¬∃ name content, (Value.object fields).HoldsOnly name content := by
        rintro ⟨name, content, hOnly⟩
        exact hEntries name content (Table.entries_eq_singleton_iff.mpr hOnly)
      have hFirst : IsFirst (Offends .textOrMap (.object fields)) [] .notOneKey := by
        refine ⟨.keys hSeveral, ?_⟩
        intro other found h
        cases h with
        | kind other => cases other
        | key only unknown => exact absurd ⟨_, _, only⟩ hSeveral
        | keys several => exact Or.inl ⟨rfl, rfl⟩
        | part asked found given offends => exact Or.inr List.Lex.nil
      exact .error hFirst
  | _ => exact .error (isFirst_of_not_admits rfl)

end SourceType

/-! ### Language options -/

namespace LanguageOptions

/-- The parts of an object that are read as language options. -/
theorem ofPart?_key_iff {name : String} {asked : Wanted × Bool} :
    Wanted.language.ofPart? (.key name) = some asked ↔
      (name = "ecmaFeatures" ∧ asked = (.map, true)) ∨
      (name = "ecmaVersion" ∧ asked = (.version, true)) ∨
      (name = "sourceType" ∧ asked = (.textOrMap, true)) ∨
      (name = "tolerant" ∧ asked = (.boolean, true)) := by
  unfold Wanted.ofPart?
  split <;> simp_all [eq_comm]

/-- The parts of a list that are read as language options. -/
theorem ofPart?_item_iff {index : Nat} {asked : Wanted × Bool} :
    Wanted.language.ofPart? (.item index) = some asked ↔
      (index = 0 ∧ asked = (.version, true)) ∨ (index = 1 ∧ asked = (.textOrMap, true)) ∨
      (index = 2 ∧ asked = (.boolean, true)) ∨ (index = 3 ∧ asked = (.map, true)) := by
  unfold Wanted.ofPart?
  split <;> simp_all [eq_comm]

/-- In an object the fields are read as their keys ascend. -/
theorem blames_fields (fields : List (String × Value)) :
    Blames (decodeFields (Table.ofList fields)) (Offends .language (.object fields)) := by
  have hFeatures := blames_optional Features.blames_features
    ((Value.object fields).part? (.key "ecmaFeatures"))
  have hVersion := blames_optional blames_version
    ((Value.object fields).part? (.key "ecmaVersion"))
  have hSource := blames_optional SourceType.blames_sourceType
    ((Value.object fields).part? (.key "sourceType"))
  have hTolerant := blames_optional blames_flag ((Value.object fields).part? (.key "tolerant"))
  have hFromTolerant := fun features version sourceType =>
    (hTolerant.below (.key "tolerant")).bindOk fun tolerant =>
      ({ version, sourceType, tolerant, features } : LanguageOptions)
  have hFromSource := fun features version =>
    hSource.bindBelow (.key "sourceType") (hFromTolerant features version)
      (.below (.keys (by decide)) _)
  have hFromVersion := fun features =>
    hVersion.bindBelow (.key "ecmaVersion") (hFromSource features)
      (.or (.below (.keys (by decide)) _) (.below (.keys (by decide)) _))
  have hAll := hFeatures.bindBelow (.key "ecmaFeatures") hFromVersion
    (.or (.below (.keys (by decide)) _)
      (.or (.below (.keys (by decide)) _) (.below (.keys (by decide)) _)))
  refine hAll.congr fun place fault => ⟨fun h => ?_, fun h => ?_⟩
  · cases h with
    | kind other => cases other
    | @part _ inner nullable _ part step place _ asked found given offends =>
      cases step with
      | item index => cases found
      | key name =>
        rcases ofPart?_key_iff.mp asked with ⟨rfl, h⟩ | ⟨rfl, h⟩ | ⟨rfl, h⟩ | ⟨rfl, h⟩
        · cases h
          exact Or.inl (below_of_part found given offends)
        · cases h
          exact Or.inr (Or.inl (below_of_part found given offends))
        · cases h
          exact Or.inr (Or.inr (Or.inl (below_of_part found given offends)))
        · cases h
          exact Or.inr (Or.inr (Or.inr (below_of_part found given offends)))
  · rcases h with h | h | h | h <;> exact offends_of_given rfl h

/-- In a list the items are read in turn, and only then is its end looked for. -/
theorem blames_items (items : List Value) :
    Blames (decodeItems items) (Offends .language (.array items)) := by
  have hVersion := blames_optional blames_version ((Value.array items).part? (.item 0))
  have hSource := blames_optional SourceType.blames_sourceType
    ((Value.array items).part? (.item 1))
  have hTolerant := blames_optional blames_flag ((Value.array items).part? (.item 2))
  have hFeatures := blames_optional Features.blames_features
    ((Value.array items).part? (.item 3))
  have hEnd : ∀ language : LanguageOptions, Blames
      (if 4 < items.length then .error (.tooManyItems items.length) else .ok language)
      fun place fault => place = [] ∧ fault = .tooManyItems items.length ∧ 4 < items.length := by
    intro language
    split
    · rename_i hLong
      exact .error ⟨⟨rfl, rfl, hLong⟩, fun other found h => Or.inl ⟨h.1, h.2.1⟩⟩
    · rename_i hShort
      exact .ok fun place fault h => hShort h.2.2
  have hFromEnd := fun version sourceType tolerant features =>
    (hEnd { version, sourceType, tolerant, features }).below (.item 4)
  have hFromFeatures := fun version sourceType tolerant =>
    hFeatures.bindBelow (.item 3) (hFromEnd version sourceType tolerant)
      (.below (.items (by decide)) _)
  have hFromTolerant := fun version sourceType =>
    hTolerant.bindBelow (.item 2) (hFromFeatures version sourceType)
      (.or (.below (.items (by decide)) _) (.below (.items (by decide)) _))
  have hFromSource := fun version =>
    hSource.bindBelow (.item 1) (hFromTolerant version)
      (.or (.below (.items (by decide)) _)
        (.or (.below (.items (by decide)) _) (.below (.items (by decide)) _)))
  have hAll := hVersion.bindBelow (.item 0) hFromSource
    (.or (.below (.items (by decide)) _) (.or (.below (.items (by decide)) _)
      (.or (.below (.items (by decide)) _) (.below (.items (by decide)) _))))
  refine hAll.congr fun place fault => ⟨fun h => ?_, fun h => ?_⟩
  · cases h with
    | kind other => cases other
    | length long => exact Or.inr (Or.inr (Or.inr (Or.inr ⟨[], rfl, rfl, rfl, long⟩)))
    | @part _ inner nullable _ part step place _ asked found given offends =>
      cases step with
      | key name => cases found
      | item index =>
        rcases ofPart?_item_iff.mp asked with ⟨rfl, h⟩ | ⟨rfl, h⟩ | ⟨rfl, h⟩ | ⟨rfl, h⟩
        · cases h
          exact Or.inl (below_of_part found given offends)
        · cases h
          exact Or.inr (Or.inl (below_of_part found given offends))
        · cases h
          exact Or.inr (Or.inr (Or.inl (below_of_part found given offends)))
        · cases h
          exact Or.inr (Or.inr (Or.inr (Or.inl (below_of_part found given offends))))
  · rcases h with h | h | h | h | ⟨inner, rfl, rfl, rfl, hLong⟩
    · exact offends_of_given rfl h
    · exact offends_of_given rfl h
    · exact offends_of_given rfl h
    · exact offends_of_given rfl h
    · exact .length hLong

/-- Of language options the first offence is reported. -/
theorem blames_language (value : Value) : Blames (decode value) (Offends .language value) := by
  cases value with
  | object fields => exact blames_fields fields
  | array items => exact blames_items items
  | _ => exact .error (isFirst_of_not_admits rfl)

end LanguageOptions

/-! ### Analysis options -/

namespace Options

theorem ofPart?_key_iff {name : String} {asked : Wanted × Bool} :
    Wanted.options.ofPart? (.key name) = some asked ↔
      (name = languageKey ∧ asked = (.language, true)) ∨
      (name = ignoreErrorsKey ∧ asked = (.boolean, false)) := by
  unfold Wanted.ofPart? languageKey ignoreErrorsKey
  split <;> simp_all [eq_comm]

/-- The failure policy offends also if it is null. -/
theorem blames_policy (found : Option Value) :
    Blames (decodePolicy found) fun place fault =>
      ∃ value, found = some value ∧ Offends .boolean value place fault := by
  cases found with
  | none =>
    refine .ok fun place fault h => ?_
    obtain ⟨value, hNone, -⟩ := h
    cases hNone
  | some value =>
    refine (blames_flag value).congr fun place fault => ⟨fun h => ?_, fun h => ?_⟩
    · obtain ⟨given, hSome, hOffends⟩ := h
      obtain rfl := Option.some.inj hSome
      exact hOffends
    · exact ⟨value, rfl, h⟩

/-- **Of analysis options** the first offence is reported. -/
theorem blames_options (value : Value) : Blames (decode value) (Offends .options value) := by
  cases value with
  | object fields =>
    have hLanguage := blames_optional LanguageOptions.blames_language
      ((Value.object fields).part? (.key languageKey))
    have hPolicy := blames_policy ((Value.object fields).part? (.key ignoreErrorsKey))
    have hFromPolicy := fun language =>
      (hPolicy.below (.key ignoreErrorsKey)).bindOk fun ignoreErrors =>
        ({ language, ignoreErrors, extra :=
          ((Table.ofList fields).erase languageKey).erase ignoreErrorsKey } : Options)
    have hAll := hLanguage.bindBelow (.key languageKey) hFromPolicy
      (.below (.keys (by decide)) _)
    refine hAll.congr fun place fault => ⟨fun h => ?_, fun h => ?_⟩
    · cases h with
      | kind other => cases other
      | @part _ inner nullable _ part step place _ asked found given offends =>
        cases step with
        | item index => cases found
        | key name =>
          rcases ofPart?_key_iff.mp asked with ⟨rfl, h⟩ | ⟨rfl, h⟩
          · cases h
            exact Or.inl (below_of_part found given offends)
          · cases h
            exact Or.inr ⟨place, rfl, part, found, offends⟩
    · rcases h with h | ⟨rest, rfl, part, hPart, hOffends⟩
      · exact offends_of_given rfl h
      · exact offends_of_required rfl hPart hOffends
  | _ => exact .error (isFirst_of_not_admits rfl)

/-- **Options are read from just the values that denote them**, which are those that nothing
offends, and from any other value the offence at its first place is reported.  A fault that shows a
value shows what stands at its place. -/
theorem decode_first_offence (value : Value) :
    (∀ options, decode value = .ok options ↔ DenotesOptions value options) ∧
    ((∃ options, DenotesOptions value options) ↔
      ∀ place fault, ¬Offends .options value place fault) ∧
    (∀ fault, decode value = .error fault ↔
      ∃ place, IsFirst (Offends .options value) place fault) ∧
    ∀ place fault found, Offends .options value place fault → fault.found? = some found →
      value.at? place = some found := by
  have hDenotes := decode_eq_ok_iff_denotes value
  have hBlames := blames_options value
  refine ⟨hDenotes, ?_, fun fault => ⟨hBlames.first_of_error fault, ?_⟩, ?_⟩
  · constructor
    · rintro ⟨options, hOptions⟩
      exact hBlames.none_of_ok options ((hDenotes options).mpr hOptions)
    · intro hNone
      cases hRead : decode value with
      | error fault =>
        obtain ⟨place, hOffends, -⟩ := hBlames.first_of_error fault hRead
        exact absurd hOffends (hNone place fault)
      | ok options => exact ⟨options, (hDenotes options).mp hRead⟩
  · rintro ⟨place, hFirst⟩
    cases hRead : decode value with
    | error found =>
      obtain ⟨other, hFound⟩ := hBlames.first_of_error found hRead
      obtain ⟨-, rfl⟩ := hFound.unique hFirst
      rfl
    | ok options => exact absurd hFirst.1 (hBlames.none_of_ok options hRead place fault)
  · intro place fault found hOffends hFound
    exact at?_of_offends hOffends hFound

/-- Options with a version that is negative, a tolerance that is a number and a policy that is
null. -/
def threeFaults : Value :=
  .object [("ecmaOptions", .object [("tolerant", .int 1), ("ecmaVersion", .int (-1))]),
    ("ignoreErrors", .null)]

/-- Of three offences the one of the version is reported. -/
theorem decode_first_offence_of_threeFaults :
    Offends .options threeFaults [.key "ecmaOptions", .key "ecmaVersion"]
      (.versionOutOfRange (-1)) ∧
    Offends .options threeFaults [.key "ecmaOptions", .key "tolerant"]
      (.wrongType (.int 1) .boolean) ∧
    Offends .options threeFaults [.key "ignoreErrors"] (.wrongType .null .boolean) ∧
    ∃ place, IsFirst (Offends .options threeFaults) place (.versionOutOfRange (-1)) ∧
      threeFaults.at? place = some (.int (-1)) := by
  obtain ⟨-, -, hFault, hFound⟩ := decode_first_offence threeFaults
  obtain ⟨place, hFirst⟩ := (hFault (.versionOutOfRange (-1))).mp rfl
  have hVersion : Offends .version (.int (-1)) [] (.versionOutOfRange (-1)) :=
    .range (Or.inl (by decide))
  have hLanguage : threeFaults.part? (.key "ecmaOptions") =
      some (.object [("tolerant", .int 1), ("ecmaVersion", .int (-1))]) := rfl
  refine ⟨?_, ?_, ?_, place, hFirst, hFound place _ _ hFirst.1 rfl⟩
  · exact offends_of_given rfl ⟨_, rfl, _, hLanguage, nofun,
      offends_of_given rfl ⟨_, rfl, _, rfl, nofun, hVersion⟩⟩
  · exact offends_of_given rfl ⟨_, rfl, _, hLanguage, nofun,
      offends_of_given rfl ⟨_, rfl, _, rfl, nofun, .kind rfl⟩⟩
  · exact offends_of_required rfl rfl (.kind rfl)

end Options

end ScriptAnalysis
