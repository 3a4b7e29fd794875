import ScriptAnalysis.Data.Decoding
import ScriptAnalysis.Options.Basic

/-!
# Reading options from a value

Fields of an object are read in ascending order of their keys, items of a list in the order of the
list, and the first fault is the one reported. Fields that no reader knows are ignored among the
language options and kept, unread, among the analysis options.
-/

namespace ScriptAnalysis

open Data (DecodeError Table Value decodeFlag decodeOptional)

/-- Read the flags of an object, in the order of its entries. -/
def decodeFlags : List (String × Value) → Except DecodeError (List (String × Bool))
  | [] => .ok []
  | (name, found) :: rest => do
    let flag ← decodeFlag found
    let flags ← decodeFlags rest
    return (name, flag) :: flags

/-- Read a table of flags. -/
def Features.decode : Value → Except DecodeError Features
  | .object fields => (decodeFlags (Table.ofList fields).entries).map Table.ofList
  | found => .error (.wrongType found .map)

/-- Read a source type by its name. -/
def SourceType.ofName : String → Except DecodeError SourceType
  | "script" => .ok .script
  | "module" => .ok .module
  | name => .error (.unknownSourceType name)

/-- Read a source type: its name, or an object whose one key is the name and holds null. -/
def SourceType.decode : Value → Except DecodeError SourceType
  | .string name => ofName name
  | .object fields =>
    match (Table.ofList fields).entries with
    | [(name, content)] => do
      let sourceType ← ofName name
      match content with
      | .null => return sourceType
      | found => .error (.wrongType found .unit)
    | _ => .error .notOneKey
  | found => .error (.wrongType found .textOrMap)

/-- Read a language version, an integer of 32 bits. -/
def decodeVersion : Value → Except DecodeError UInt32
  | .int n =>
    if 0 ≤ n ∧ n.toNat < UInt32.size then .ok (UInt32.ofNat n.toNat)
    else .error (.versionOutOfRange n)
  | found => .error (.wrongType found .version)

namespace LanguageOptions

/-- Read the fields of an object, in ascending order of their keys. -/
def decodeFields (table : Table Value) : Except DecodeError LanguageOptions := do
  let features ← decodeOptional Features.decode (table.find? "ecmaFeatures")
  let version ← decodeOptional decodeVersion (table.find? "ecmaVersion")
  let sourceType ← decodeOptional SourceType.decode (table.find? "sourceType")
  let tolerant ← decodeOptional decodeFlag (table.find? "tolerant")
  return { version, sourceType, tolerant, features }

/-- Read the items of a list: version, source type, tolerance and features. -/
def decodeItems (items : List Value) : Except DecodeError LanguageOptions := do
  let version ← decodeOptional decodeVersion items[0]?
  let sourceType ← decodeOptional SourceType.decode items[1]?
  let tolerant ← decodeOptional decodeFlag items[2]?
  let features ← decodeOptional Features.decode items[3]?
  if 4 < items.length then .error (.tooManyItems items.length)
  else return { version, sourceType, tolerant, features }

/-- Read language options, from an object or a list. -/
def decode : Value → Except DecodeError LanguageOptions
  | .object fields => decodeFields (Table.ofList fields)
  | .array items => decodeItems items
  | found => .error (.wrongType found .language)

end LanguageOptions

namespace Options

/-- The key of the language options. -/
def languageKey : String := "ecmaOptions"

/-- The key of the failure policy. -/
def ignoreErrorsKey : String := "ignoreErrors"

/-- Read the failure policy; unlike the language options it cannot be null. -/
def decodePolicy : Option Value → Except DecodeError Bool
  | none => .ok false
  | some found => decodeFlag found

/-- Read analysis options from an object. What no reader knows is left for the scoring engine. -/
def decode : Value → Except DecodeError Options
  | .object fields => do
    let table := Table.ofList fields
    let language ← decodeOptional LanguageOptions.decode (table.find? languageKey)
    let ignoreErrors ← decodePolicy (table.find? ignoreErrorsKey)
    return { language, ignoreErrors, extra := (table.erase languageKey).erase ignoreErrorsKey }
  | found => .error (.wrongType found .options)

end Options

end ScriptAnalysis
