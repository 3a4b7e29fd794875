import ScriptAnalysis.Data.Value

/-!
# Analysis options

One bag of options travels through an analysis: the language options go to the builder of trees, the
failure policy to the analysis itself, and every other entry to the scoring engine untouched.
-/

namespace ScriptAnalysis

open Data (Table Value)
open Number (Double)

/-- Whether code is read as a classic script or as a module. -/
inductive SourceType where
  | script
  | module
  deriving DecidableEq, Repr

/-- Named flags of the language. A name that no rule asks for is kept all the same. -/
abbrev Features := Table Bool

namespace Features

def set (features : Features) (name : String) (enabled : Bool) : Features :=
  features.insert name enabled

/-- A flag is on only when it was set to true. -/
def isEnabled (features : Features) (name : String) : Bool := (features.find? name).getD false

end Features

/-- Options of the language. A missing one leaves the choice to the builder of trees. -/
structure LanguageOptions where
  version : Option UInt32 := none
  sourceType : Option SourceType := none
  tolerant : Option Bool := none
  features : Option Features := none
  deriving BEq, Repr

namespace LanguageOptions

def withVersion (language : LanguageOptions) (version : UInt32) : LanguageOptions :=
  { language with version := some version }

def withSourceType (language : LanguageOptions) (sourceType : SourceType) : LanguageOptions :=
  { language with sourceType := some sourceType }

/-- Choose whether syntax errors are recorded or fail the build. -/
def withTolerance (language : LanguageOptions) (tolerant : Bool) : LanguageOptions :=
  { language with tolerant := some tolerant }

/-- Set a flag, in a new table of flags if there is none. -/
def withFeature (language : LanguageOptions) (name : String) (enabled : Bool) : LanguageOptions :=
  { language with features := some ((language.features.getD Table.empty).set name enabled) }

end LanguageOptions

/-- The options of one analysis. -/
structure Options where
  language : Option LanguageOptions := none
  /-- Drop the sources of a batch that fail to build instead of giving the batch up. -/
  ignoreErrors : Bool := false
  /-- Entries for the scoring engine. -/
  extra : Table Value := Table.empty
  deriving BEq

namespace Options

/-- Put the language options in, in place of those that are there. -/
def withLanguage (options : Options) (language : LanguageOptions) : Options :=
  { options with language := some language }

def ignoringErrors (options : Options) : Options := { options with ignoreErrors := true }

def withExtra (options : Options) (key : String) (value : Value) : Options :=
  { options with extra := options.extra.insert key value }

/-- Change the language options, empty ones if there are none. -/
def updateLanguage (options : Options) (change : LanguageOptions → LanguageOptions) : Options :=
  options.withLanguage (change (options.language.getD {}))

def extra? (options : Options) (key : String) : Option Value := options.extra.find? key

def extraFlag? (options : Options) (key : String) : Option Bool :=
  (options.extra? key).bind Value.flag?

def extraNumber? (options : Options) (key : String) : Option Double :=
  (options.extra? key).bind Value.number?

end Options

end ScriptAnalysis
