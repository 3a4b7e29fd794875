import ScriptAnalysis.Options.Basic

/-!
# Dialects

The dialect of one build, taken from the language options, and the grammar it is parsed with.
-/

namespace ScriptAnalysis

/-- What the builder of trees is told. -/
structure Dialect where
  /-- Whether trees carry locations. -/
  locations : Bool
  version : Option UInt32 := none
  sourceType : Option SourceType := none
  tolerant : Option Bool := none
  features : Option Features := none
  deriving BEq, Repr

namespace Dialect

/-- The dialect that options ask for: the language options as they are, with locations. -/
def ofOptions (options : Options) : Dialect where
  locations := true
  version := options.language.bind LanguageOptions.version
  sourceType := options.language.bind LanguageOptions.sourceType
  tolerant := options.language.bind LanguageOptions.tolerant
  features := options.language.bind LanguageOptions.features

/-- Whether syntax errors are recorded instead of failing the build. -/
def isTolerant (dialect : Dialect) : Bool := dialect.tolerant.getD false

/-- Whether a flag is on. -/
def hasFeature (dialect : Dialect) (name : String) : Bool :=
  dialect.features.any (·.isEnabled name)

/-- Whether code is read as a module. -/
def isModule (dialect : Dialect) : Bool := dialect.sourceType == some .module

end Dialect

/-- The grammars code can be parsed with. -/
inductive Grammar where
  | javaScript
  | typeScript
  | tsx
  deriving DecidableEq, Repr

namespace Grammar

/-- The grammar's name. -/
def name : Grammar → String
  | .javaScript => "JavaScript"
  | .typeScript => "TypeScript"
  | .tsx => "Tsx"

/-- The grammar of a dialect: markup makes a difference only with types. -/
def ofDialect (dialect : Dialect) : Grammar :=
  if dialect.hasFeature "typescript" then
    if dialect.hasFeature "jsx" then .tsx else .typeScript
  else .javaScript

end Grammar

end ScriptAnalysis
