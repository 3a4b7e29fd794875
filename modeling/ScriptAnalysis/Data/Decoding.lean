import ScriptAnalysis.Data.Value
import ScriptAnalysis.Number.Shortest
import ScriptAnalysis.Text.Quoted

/-!
# Decoding values

What can be wrong with a value that is to be read as something else, the wording of each fault, and
the decoders of flags, texts and optional values that the others are put together from.
-/

namespace ScriptAnalysis.Data

/-- What a decoder is ready to read. -/
inductive Wanted where
  | options
  | language
  | source
  | version
  | boolean
  | text
  | list
  | map
  | unit
  | textOrMap
  deriving DecidableEq, Repr

/-- The name of what is wanted, as faults give it. -/
def Wanted.name : Wanted → String
  | .options => "struct AnalysisOptions"
  | .language => "struct EcmaOptions"
  | .source => "struct SourceUnit"
  | .version => "u32"
  | .boolean => "a boolean"
  | .text => "a string"
  | .list => "a sequence"
  | .map => "a map"
  | .unit => "unit"
  | .textOrMap => "string or map"

/-- Why a value cannot be decoded. -/
inductive DecodeError where
  /-- A value of another kind stands where something is wanted. -/
  | wrongType (found : Value) (wanted : Wanted)
  /-- An integer is negative or too great for a version. -/
  | versionOutOfRange (number : Int)
  /-- A text names no source type. -/
  | unknownSourceType (name : String)
  /-- An object that should name one source type has no key or several. -/
  | notOneKey
  | missingField (name : String)
  /-- A list ends before all the fields of a source are given. -/
  | tooFewItems (count : Nat)
  /-- A list goes on after all the fields are given. -/
  | tooManyItems (count : Nat)

/-- A value as faults show it: its kind, and its content where that is short. -/
def Value.shown : Value → String
  | .null => "null"
  | .bool true => "boolean `true`"
  | .bool false => "boolean `false`"
  | .int n => "integer `" ++ toString n ++ "`"
  | .float x => "floating point `" ++ x.text ++ "`"
  | .string s => "string " ++ Text.quote s
  | .array _ => "sequence"
  | .object _ => "map"

/-- The wording of a fault. -/
def DecodeError.message : DecodeError → String
  | .wrongType found wanted => "invalid type: " ++ found.shown ++ ", expected " ++ wanted.name
  | .versionOutOfRange n => "invalid value: integer `" ++ toString n ++ "`, expected u32"
  | .unknownSourceType name =>
    "unknown variant `" ++ name ++ "`, expected `script` or `module`"
  | .notOneKey => "invalid value: map, expected map with a single key"
  | .missingField name => "missing field `" ++ name ++ "`"
  | .tooFewItems count =>
    "invalid length " ++ toString count ++ ", expected struct SourceUnit with 2 elements"
  | .tooManyItems count =>
    "invalid length " ++ toString count ++ ", expected fewer elements in array"

def decodeFlag : Value → Except DecodeError Bool
  | .bool flag => .ok flag
  | found => .error (.wrongType found .boolean)

def decodeText : Value → Except DecodeError String
  | .string text => .ok text
  | found => .error (.wrongType found .text)

/-- Read a value that may be left out; null is as good as absence. -/
def decodeOptional {α : Type} (decode : Value → Except DecodeError α) :
    Option Value → Except DecodeError (Option α)
  | none => .ok none
  | some .null => .ok none
  | some found => (decode found).map some

end ScriptAnalysis.Data
