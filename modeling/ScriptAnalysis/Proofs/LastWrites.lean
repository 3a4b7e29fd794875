import Mathlib.Data.List.DropRight
import ScriptAnalysis.Dialect

/-!
# Options built call by call

Options are built by calls, each of which writes to one slot: the failure policy, an entry for the
scoring engine, one of the language options or one flag.  Only the call that puts language options
in writes to all slots of the language at once, so that what came before it is forgotten there.
What a slot holds in the end was written by the last call that wrote to it.

* `Written`: what calls have written, slot by slot.
* `Written.apply`: one more call overwrites its own slot and leaves the others.
* `written_ofCalls`: so a sequence of calls leaves what it has written.
* `Written.eq`: no two options hold the same in all slots.
* `ofCalls_last_writes`: two sequences give the same options just if their last writes agree.
-/

namespace ScriptAnalysis

open Data (Table Value)

/-- A call that changes options. -/
inductive Call where
  | ignoringErrors
  | withExtra (key : String) (value : Value)
  | withLanguage (language : LanguageOptions)
  | version (number : UInt32)
  | sourceType (type : SourceType)
  | tolerance (tolerant : Bool)
  | feature (name : String) (enabled : Bool)

namespace Call

/-! ### What a call does -/

/-- Options after a call.  A language option is set in the language options that are there, or in
empty ones. -/
def apply (options : Options) : Call → Options
  | ignoringErrors => options.ignoringErrors
  | withExtra key value => options.withExtra key value
  | withLanguage language => options.withLanguage language
  | version number => options.updateLanguage (·.withVersion number)
  | sourceType type => options.updateLanguage (·.withSourceType type)
  | tolerance tolerant => options.updateLanguage (·.withTolerance tolerant)
  | feature name enabled => options.updateLanguage (·.withFeature name enabled)

/-- Language options after a call. -/
def changed (language : LanguageOptions) : Call → LanguageOptions
  | ignoringErrors => language
  | withExtra _ _ => language
  | withLanguage brought => brought
  | version number => language.withVersion number
  | sourceType type => language.withSourceType type
  | tolerance tolerant => language.withTolerance tolerant
  | feature name enabled => language.withFeature name enabled

/-- The language options, empty ones if there are none, after a call. -/
theorem getD_language_apply (options : Options) (call : Call) :
    (call.apply options).language.getD {} = call.changed (options.language.getD {}) := by
  cases call <;> rfl

/-! ### What a call writes -/

/-- Whether a call is about the language. -/
def isOfLanguage : Call → Bool
  | ignoringErrors => false
  | withExtra _ _ => false
  | _ => true

/-- Whether a call sets a flag. -/
def setsFeature : Call → Bool
  | feature _ _ => true
  | _ => false

/-- The language options that a call puts in. -/
def base? : Call → Option LanguageOptions
  | withLanguage language => some language
  | _ => none

/-- The entry that a call writes under a key. -/
def extraAt? (key : String) : Call → Option Value
  | withExtra written value => if written = key then some value else none
  | _ => none

def version? : Call → Option UInt32
  | version number => some number
  | _ => none

def sourceType? : Call → Option SourceType
  | sourceType type => some type
  | _ => none

def tolerance? : Call → Option Bool
  | tolerance tolerant => some tolerant
  | _ => none

/-- What a call sets the flag of a name to. -/
def featureAt? (name : String) : Call → Option Bool
  | feature written enabled => if written = name then some enabled else none
  | _ => none

/-! ### What calls write in the end -/

variable {α : Type}

/-- What the last of some calls that write writes. -/
def lastWrite? (write : Call → Option α) (calls : List Call) : Option α :=
  (calls.filterMap write).getLast?

/-- The language options that were put in last, empty ones if there were none. -/
def baseOf (calls : List Call) : LanguageOptions := (lastWrite? base? calls).getD {}

/-- The calls after language options were put in last. -/
def sinceBase (calls : List Call) : List Call := calls.rtakeWhile fun call => call.base?.isNone

/-- What a slot of the language holds after some calls: what was written to it last since language
options were put in, or else what these brought. -/
def lastOf (write : Call → Option α) (brought : LanguageOptions → Option α) (calls : List Call) :
    Option α :=
  (lastWrite? write (sinceBase calls)).or (brought (baseOf calls))

def versionOf (calls : List Call) : Option UInt32 := lastOf version? LanguageOptions.version calls

def sourceTypeOf (calls : List Call) : Option SourceType :=
  lastOf sourceType? LanguageOptions.sourceType calls

def toleranceOf (calls : List Call) : Option Bool :=
  lastOf tolerance? LanguageOptions.tolerant calls

/-- What the flag of a name is set to after some calls. -/
def featureOf (calls : List Call) (name : String) : Option Bool :=
  lastOf (featureAt? name) (fun language => language.features.bind (·.find? name)) calls

/-- Whether there are flags after some calls: language options with flags were put in last, or a
flag was set since. -/
def HasFeatures (calls : List Call) : Prop :=
  (baseOf calls).features.isSome = true ∨ ∃ call ∈ sinceBase calls, call.setsFeature = true

/-! ### One more call -/

theorem lastWrite?_concat (write : Call → Option α) (calls : List Call) (call : Call) :
    lastWrite? write (calls ++ [call]) = (write call).or (lastWrite? write calls) := by
  rw [lastWrite?, List.filterMap_append, List.getLast?_append]
  cases hWrite : write call with
  | none => rw [List.filterMap_cons_none hWrite]; rfl
  | some value => rw [List.filterMap_cons_some hWrite]; rfl

theorem baseOf_concat (calls : List Call) (call : Call) :
    baseOf (calls ++ [call]) = call.base?.getD (baseOf calls) := by
  rw [baseOf, lastWrite?_concat]
  cases call.base? <;> rfl

theorem sinceBase_concat (calls : List Call) (call : Call) :
    sinceBase (calls ++ [call]) = if call.base?.isNone then sinceBase calls ++ [call] else [] :=
  List.rtakeWhile_concat _ _ call

/-- **One more call** leaves a slot of the language as it brings it or writes it, or else as it
was. -/
theorem lastOf_concat (write : Call → Option α) (brought : LanguageOptions → Option α)
    (calls : List Call) (call : Call) :
    lastOf write brought (calls ++ [call]) =
      match call.base? with
      | some language => brought language
      | none => (write call).or (lastOf write brought calls) := by
  rw [lastOf, sinceBase_concat, baseOf_concat]
  cases call.base? with
  | some language => rfl
  | none =>
    rw [Option.isNone_none, if_pos rfl, lastWrite?_concat, Option.or_assoc]
    rfl

theorem hasFeatures_concat (calls : List Call) (call : Call) :
    HasFeatures (calls ++ [call]) ↔
      match call.base? with
      | some language => language.features.isSome = true
      | none => call.setsFeature = true ∨ HasFeatures calls := by
  rw [HasFeatures, sinceBase_concat, baseOf_concat]
  cases call.base? with
  | some language => simp
  | none => simp [HasFeatures, or_and_right, exists_or, or_comm, or_left_comm]

end Call

/-- The options that are built by calls. -/
def Options.ofCalls (calls : List Call) : Options := calls.foldl Call.apply {}

/-- Options that hold in each slot what some calls have written there last. -/
structure Written (calls : List Call) (options : Options) : Prop where
  ignoring : options.ignoreErrors = true ↔ .ignoringErrors ∈ calls
  extra : ∀ key, options.extra.find? key = Call.lastWrite? (Call.extraAt? key) calls
  language : options.language.isSome = true ↔ ∃ call ∈ calls, call.isOfLanguage = true
  version : (options.language.getD {}).version = Call.versionOf calls
  sourceType : (options.language.getD {}).sourceType = Call.sourceTypeOf calls
  tolerant : (options.language.getD {}).tolerant = Call.toleranceOf calls
  hasFeatures : (options.language.getD {}).features.isSome = true ↔ Call.HasFeatures calls
  feature : ∀ name, (options.language.getD {}).features.bind (·.find? name) =
    Call.featureOf calls name

namespace Written

variable {calls : List Call} {options : Options}

theorem nil : Written [] {} where
  ignoring := by simp
  extra key := rfl
  language := by simp
  version := rfl
  sourceType := rfl
  tolerant := rfl
  hasFeatures := by simp [Call.HasFeatures, Call.baseOf, Call.sinceBase, Call.lastWrite?]
  feature name := rfl

theorem extra_apply (h : Written calls options) (call : Call) (key : String) :
    (call.apply options).extra.find? key =
      Call.lastWrite? (Call.extraAt? key) (calls ++ [call]) := by
  rw [Call.lastWrite?_concat, ← h.extra]
  cases call with
  | withExtra written value =>
    show (options.extra.insert written value).find? key = _
    rw [Table.find?_insert, Call.extraAt?]
    by_cases hKey : key = written
    · rw [if_pos hKey, if_pos hKey.symm]
      rfl
    · rw [if_neg hKey, if_neg (Ne.symm hKey)]
      rfl
  | _ => rfl

theorem feature_apply (h : Written calls options) (call : Call) (name : String) :
    ((call.apply options).language.getD {}).features.bind (·.find? name) =
      Call.featureOf (calls ++ [call]) name := by
  rw [Call.getD_language_apply, Call.featureOf, Call.lastOf_concat, ← Call.featureOf, ← h.feature]
  cases call with
  | feature written enabled =>
    show
      (((options.language.getD {}).features.getD Table.empty).insert written enabled).find? name =
      (if written = name then some enabled else none).or _
    rw [Table.find?_insert]
    by_cases hName : name = written
    · rw [if_pos hName, if_pos hName.symm]
      rfl
    · rw [if_neg hName, if_neg (Ne.symm hName)]
      cases (options.language.getD {}).features <;> rfl
  | _ => rfl

/-- **One more call** overwrites its own slot and leaves the others as they were. -/
theorem apply (h : Written calls options) (call : Call) :
    Written (calls ++ [call]) (call.apply options) where
  ignoring := by
    rw [List.mem_append, List.mem_singleton, ← h.ignoring]
    cases call <;> simp [Call.apply, Options.ignoringErrors, Options.withExtra,
      Options.withLanguage, Options.updateLanguage]
  extra := h.extra_apply call
  language := by
    simp only [List.mem_append, List.mem_singleton, or_and_right, exists_or, exists_eq_left,
      ← h.language]
    cases call <;> simp [Call.apply, Call.isOfLanguage, Options.ignoringErrors, Options.withExtra,
      Options.withLanguage, Options.updateLanguage]
  version := by
    rw [Call.getD_language_apply, Call.versionOf, Call.lastOf_concat, ← Call.versionOf, ← h.version]
    cases call <;> rfl
  sourceType := by
    rw [Call.getD_language_apply, Call.sourceTypeOf, Call.lastOf_concat, ← Call.sourceTypeOf,
      ← h.sourceType]
    cases call <;> rfl
  tolerant := by
    rw [Call.getD_language_apply, Call.toleranceOf, Call.lastOf_concat, ← Call.toleranceOf,
      ← h.tolerant]
    cases call <;> rfl
  hasFeatures := by
    rw [Call.getD_language_apply, Call.hasFeatures_concat, ← h.hasFeatures]
    cases call <;> simp [Call.changed, Call.base?, Call.setsFeature, LanguageOptions.withVersion,
      LanguageOptions.withSourceType, LanguageOptions.withTolerance, LanguageOptions.withFeature]
  feature := h.feature_apply call

/-- Options that hold the same in all slots are the same. -/
theorem eq {a b : Options} (ha : Written calls a) (hb : Written calls b) : a = b := by
  obtain ⟨languageA, ignoreErrorsA, extraA⟩ := a
  obtain ⟨languageB, ignoreErrorsB, extraB⟩ := b
  have hIgnoring : ignoreErrorsA = ignoreErrorsB :=
    Bool.eq_iff_iff.mpr (ha.ignoring.trans hb.ignoring.symm)
  have hExtra : extraA = extraB :=
    Table.ext_find? fun key => (ha.extra key).trans (hb.extra key).symm
  have hLanguage : languageA = languageB := by
    have hPresent := ha.language.trans hb.language.symm
    cases languageA with
    | none =>
      cases languageB with
      | none => rfl
      | some b => simp at hPresent
    | some a =>
      cases languageB with
      | none => simp at hPresent
      | some b =>
        obtain ⟨versionA, sourceTypeA, tolerantA, featuresA⟩ := a
        obtain ⟨versionB, sourceTypeB, tolerantB, featuresB⟩ := b
        have hVersion : versionA = versionB := ha.version.trans hb.version.symm
        have hSource : sourceTypeA = sourceTypeB := ha.sourceType.trans hb.sourceType.symm
        have hTolerant : tolerantA = tolerantB := ha.tolerant.trans hb.tolerant.symm
        have hGiven : featuresA.isSome = true ↔ featuresB.isSome = true :=
          ha.hasFeatures.trans hb.hasFeatures.symm
        have hFlags : ∀ name, featuresA.bind (·.find? name) = featuresB.bind (·.find? name) :=
          fun name => (ha.feature name).trans (hb.feature name).symm
        have hFeatures : featuresA = featuresB := by
          cases featuresA <;> cases featuresB
          · rfl
          · simp at hGiven
          · simp at hGiven
          · exact congrArg some (Table.ext_find? hFlags)
        rw [hVersion, hSource, hTolerant, hFeatures]
  rw [hLanguage, hIgnoring, hExtra]

end Written

/-- **Options built by calls** hold in each slot what was written there last. -/
theorem written_ofCalls (calls : List Call) : Written calls (Options.ofCalls calls) := by
  induction calls using List.reverseRecOn with
  | nil => exact Written.nil
  | append_singleton calls call ih =>
    rw [Options.ofCalls, List.foldl_append]
    exact ih.apply call

/-- Two sequences of calls whose last writes agree, and which write to the same optional parts. -/
structure SameLastWrites (calls others : List Call) : Prop where
  ignoring : .ignoringErrors ∈ calls ↔ .ignoringErrors ∈ others
  extra : ∀ key, Call.lastWrite? (Call.extraAt? key) calls =
    Call.lastWrite? (Call.extraAt? key) others
  language : (∃ call ∈ calls, call.isOfLanguage = true) ↔ ∃ call ∈ others, call.isOfLanguage = true
  version : Call.versionOf calls = Call.versionOf others
  sourceType : Call.sourceTypeOf calls = Call.sourceTypeOf others
  tolerant : Call.toleranceOf calls = Call.toleranceOf others
  hasFeatures : Call.HasFeatures calls ↔ Call.HasFeatures others
  feature : ∀ name, Call.featureOf calls name = Call.featureOf others name

/-- Options show what was written last. -/
theorem Written.sameLastWrites {calls others : List Call} {options : Options}
    (h : Written calls options) (hOthers : Written others options) :
    SameLastWrites calls others where
  ignoring := h.ignoring.symm.trans hOthers.ignoring
  extra key := (h.extra key).symm.trans (hOthers.extra key)
  language := h.language.symm.trans hOthers.language
  version := h.version.symm.trans hOthers.version
  sourceType := h.sourceType.symm.trans hOthers.sourceType
  tolerant := h.tolerant.symm.trans hOthers.tolerant
  hasFeatures := h.hasFeatures.symm.trans hOthers.hasFeatures
  feature name := (h.feature name).symm.trans (hOthers.feature name)

/-- What was written by calls was written by others that agree with them in their last writes. -/
theorem SameLastWrites.written {calls others : List Call} {options : Options}
    (h : SameLastWrites calls others) (hOthers : Written others options) :
    Written calls options where
  ignoring := hOthers.ignoring.trans h.ignoring.symm
  extra key := (hOthers.extra key).trans (h.extra key).symm
  language := hOthers.language.trans h.language.symm
  version := hOthers.version.trans h.version.symm
  sourceType := hOthers.sourceType.trans h.sourceType.symm
  tolerant := hOthers.tolerant.trans h.tolerant.symm
  hasFeatures := hOthers.hasFeatures.trans h.hasFeatures.symm
  feature name := (hOthers.feature name).trans (h.feature name).symm

/-- A flag is on if it was last set to true. -/
theorem hasFeature_iff {calls : List Call} {options : Options} (h : Written calls options)
    (name : String) :
    (Dialect.ofOptions options).hasFeature name = true ↔ Call.featureOf calls name = some true := by
  have hFeatures : (Dialect.ofOptions options).features = (options.language.getD {}).features := by
    cases hLanguage : options.language <;> rw [Dialect.ofOptions, hLanguage] <;> rfl
  rw [Dialect.hasFeature, hFeatures, ← h.feature]
  cases (options.language.getD {}).features with
  | none => simp
  | some features =>
    rw [Option.any_some, Features.isEnabled, Option.bind_some]
    cases features.find? name <;> simp

/-- **Options built by calls** hold in each slot what was written there last: a language option
since language options were put in, or else as these brought it.  A flag is on if it was last set
to true.  Two sequences of calls build the same options just if they agree in their last writes and
in the optional parts they write to. -/
theorem ofCalls_last_writes :
    (∀ calls : List Call, Written calls (Options.ofCalls calls) ∧
      (∀ name, (Dialect.ofOptions (Options.ofCalls calls)).hasFeature name = true ↔
        Call.featureOf calls name = some true) ∧
      ∀ features : Features, (Options.ofCalls calls).language.bind (·.features) = some features →
        ∀ name, features.isEnabled name = true ↔ Call.featureOf calls name = some true) ∧
    ∀ calls others : List Call,
      Options.ofCalls calls = Options.ofCalls others ↔ SameLastWrites calls others := by
  refine ⟨fun calls => ?_, fun calls others => ⟨fun hSame => ?_, fun hSame => ?_⟩⟩
  · have hWritten := written_ofCalls calls
    refine ⟨hWritten, hasFeature_iff hWritten, fun features hFeatures name => ?_⟩
    have hGiven : (Dialect.ofOptions (Options.ofCalls calls)).features = some features := hFeatures
    rw [← hasFeature_iff hWritten, Dialect.hasFeature, hGiven, Option.any_some]
  · have hOthers := written_ofCalls others
    rw [← hSame] at hOthers
    exact (written_ofCalls calls).sameLastWrites hOthers
  · exact (written_ofCalls calls).eq (hSame.written (written_ofCalls others))

/-- Calls some of which are overwritten, or forgotten when language options are put in. -/
def callsWithDetours : List Call :=
  [.feature "globalReturn" true, .version 5, .withExtra "newmi" (.bool true),
    .withLanguage { version := some 2015, features := some (Table.empty.insert "jsx" false) },
    .withExtra "trycatch" (.int 1), .feature "jsx" true, .version 2020, .ignoringErrors]

/-- Calls that go to the same slots by the shortest way. -/
def callsWithoutDetours : List Call :=
  [.ignoringErrors, .withExtra "trycatch" (.int 1), .withExtra "newmi" (.bool true),
    .feature "jsx" true, .version 2020]

/-- The same options are built, so the calls agree in their last writes; the flag that was forgotten
is off. -/
theorem ofCalls_last_writes_of_detours :
    Options.ofCalls callsWithDetours = Options.ofCalls callsWithoutDetours ∧
    SameLastWrites callsWithDetours callsWithoutDetours ∧
    (Dialect.ofOptions (Options.ofCalls callsWithDetours)).hasFeature "jsx" = true ∧
    (Dialect.ofOptions (Options.ofCalls callsWithDetours)).hasFeature "globalReturn" ≠ true := by
  obtain ⟨hWritten, hSame⟩ := ofCalls_last_writes
  obtain ⟨-, hOn, -⟩ := hWritten callsWithDetours
  have hBuilt : Options.ofCalls callsWithDetours = Options.ofCalls callsWithoutDetours := rfl
  exact ⟨hBuilt, (hSame _ _).mp hBuilt, (hOn "jsx").mpr (by decide),
    mt (hOn "globalReturn").mp (by decide)⟩

end ScriptAnalysis
