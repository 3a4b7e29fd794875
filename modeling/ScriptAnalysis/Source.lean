import ScriptAnalysis.Data.Decoding

/-!
# Sources

A source is a named piece of code. The name is never resolved; it identifies the source in errors
and beside its tree. An analysis is given a batch of sources or one code without a name.
-/

namespace ScriptAnalysis

open Data (DecodeError Table Value decodeText)

/-- A named piece of code. -/
structure Source where
  path : String
  code : String
  deriving DecidableEq, Repr

/-- A source that was built, ready for scoring. -/
structure Parsed (T : Type) where
  path : String
  tree : T
  deriving DecidableEq, Repr

/-- What an analysis is given. -/
inductive Input where
  | batch (sources : List Source)
  | single (code : String)
  deriving DecidableEq, Repr

namespace Source

/-- Read the fields of an object. Those that are there are read in ascending order of their keys
before any is missed. -/
def decodeFields (table : Table Value) : Except DecodeError Source := do
  let code? ← (table.find? "code").mapM decodeText
  let path? ← (table.find? "path").mapM decodeText
  match path?, code? with
  | some path, some code => return { path, code }
  | none, _ => .error (.missingField "path")
  | some _, none => .error (.missingField "code")

/-- Read the items of a list: the path and the code. -/
def decodeItems : List Value → Except DecodeError Source
  | [] => .error (.tooFewItems 0)
  | [first] => do
    let _ ← decodeText first
    .error (.tooFewItems 1)
  | first :: second :: rest => do
    let path ← decodeText first
    let code ← decodeText second
    match rest with
    | [] => return { path, code }
    | _ :: _ => .error (.tooManyItems (rest.length + 2))

/-- Read a source, from an object or a list. -/
def decode : Value → Except DecodeError Source
  | .object fields => decodeFields (Table.ofList fields)
  | .array items => decodeItems items
  | found => .error (.wrongType found .source)

/-- Read sources in order, up to the first fault. -/
def decodeAll : List Value → Except DecodeError (List Source)
  | [] => .ok []
  | item :: rest => do
    let source ← decode item
    let sources ← decodeAll rest
    return source :: sources

def decodeBatch : Value → Except DecodeError (List Source)
  | .array items => decodeAll items
  | found => .error (.wrongType found .list)

def encode (source : Source) : Value :=
  .ofFields [("path", .string source.path), ("code", .string source.code)]

def encodeBatch (sources : List Source) : Value := .array (sources.map encode)

end Source

end ScriptAnalysis
