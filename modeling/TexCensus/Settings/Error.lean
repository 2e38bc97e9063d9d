import TexCensus.Files.Path
import TexCensus.Words.Correction
import TexCensus.Words.Language

/-!
# Errors at the start

What can go wrong before the first record is built: reading files, reading settings and finding
the resources they ask for. Every error is a cause; its wording is in `SetupError.message`.
-/

namespace TexCensus

/-- A part of the library that exists for some languages only. -/
inductive Component where
  | stopwordList
  | rslpStemmer
deriving DecidableEq, Repr

/-- The name of a component in messages. -/
def Component.name : Component → Text
  | stopwordList => "built-in stopword list".toList
  | rslpStemmer => "RSLP stemmer".toList

/-- Why no analysis could be set up. -/
inductive SetupError where
  /-- The settings file could not be read. -/
  | readSettings (path : Path) (fault : ReadFault)
  /-- The settings are malformed or have values of the wrong kind. -/
  | parseSettings
  /-- The stopword file could not be read. -/
  | missingStopwords (path : Path) (fault : ReadFault)
  /-- A stopword list without words. -/
  | emptyStopwords
  /-- A component that does not exist for the language. -/
  | unsupportedLanguage (component : Component) (language : Language)
  /-- A correction that is refused. -/
  | invalidCorrection (rule : Correction) (fault : CorrectionFault)
deriving DecidableEq, Repr

/-- The error in words. -/
def SetupError.message : SetupError → Text
  | readSettings path fault =>
    "Failed to read config '".toList ++ path ++ "': ".toList ++ fault.message
  | parseSettings => "Failed to parse config".toList
  | missingStopwords path fault =>
    "Failed to read stopword list '".toList ++ path ++ "': ".toList ++ fault.message
  | emptyStopwords => "Stopword list is empty".toList
  | unsupportedLanguage component language =>
    "No ".toList ++ component.name ++ " available for language '".toList ++ language.name
      ++ "'".toList
  | invalidCorrection rule fault =>
    "Invalid correction rule: ".toList ++ fault.message ++ ": ".toList ++ rule.describe

/-- Accepts corrections none of which is refused; otherwise the first refusal is the error. -/
def checkCorrections (rules : List Correction) : Except SetupError Unit :=
  match rules.findSome? fun rule => rule.fault?.map fun fault => (rule, fault) with
  | some (rule, fault) => .error (.invalidCorrection rule fault)
  | none => .ok ()

end TexCensus
