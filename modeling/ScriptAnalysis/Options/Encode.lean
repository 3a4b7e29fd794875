import ScriptAnalysis.Options.Decode

/-!
# Writing options as a value

Absent options are left out, the failure policy is always written, and the entries for the scoring
engine come last, so that an entry under one of the two known keys hides the option written there.
-/

namespace ScriptAnalysis

open Data (Table Value)

/-- A source type's name. -/
def SourceType.name : SourceType → String
  | .script => "script"
  | .module => "module"

/-- Write a table of flags as an object. -/
def Features.encode (features : Features) : Value :=
  .object (features.entries.map fun entry => (entry.1, .bool entry.2))

/-- The field of an option, none when the option is absent. -/
def optionalField {α : Type} (key : String) (encode : α → Value) (value : Option α) :
    List (String × Value) :=
  (value.map fun present => (key, encode present)).toList

/-- Write language options as an object. -/
def LanguageOptions.encode (language : LanguageOptions) : Value :=
  .ofFields <|
    optionalField "ecmaVersion" (fun version => .int version.toNat) language.version ++
    optionalField "sourceType" (fun sourceType => .string sourceType.name) language.sourceType ++
    optionalField "tolerant" .bool language.tolerant ++
    optionalField "ecmaFeatures" Features.encode language.features

/-- Write analysis options as an object. -/
def Options.encode (options : Options) : Value :=
  .ofFields <|
    optionalField languageKey LanguageOptions.encode options.language ++
    [(ignoreErrorsKey, .bool options.ignoreErrors)] ++
    options.extra.entries

end ScriptAnalysis
