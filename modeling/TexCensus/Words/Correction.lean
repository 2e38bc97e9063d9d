import TexCensus.Unicode.Uppercase
import TexCensus.Unicode.WhiteSpace

/-!
# Corrections

A correction mends the word counts of a record after the fact. A rename moves the count of one key
to another. A phrase is counted as a unit, and its count is taken away from its first word.

Tokens are in lower case, so a key with a capital could never be found; such rules are refused
before they are used. The target of a rename may be written in any way.
-/

namespace TexCensus

/-- A rule that mends word counts. -/
inductive Correction where
  /-- Moves the count of a key to another key. -/
  | rename (source target : Text)
  /-- Counts a phrase and takes its count away from its first word. -/
  | phrase (phrase : Text)
deriving DecidableEq, Repr

/-- Why a correction is refused. -/
inductive CorrectionFault where
  /-- A key of a rename is empty. -/
  | missingKey
  /-- The source of a rename has a capital. -/
  | sourceNotLowercase
  /-- A rename does not rename. -/
  | ontoItself
  /-- A phrase of fewer than two words. -/
  | singleWord
  /-- A phrase with a capital. -/
  | phraseNotLowercase
deriving DecidableEq, Repr

namespace Correction

/-- The words of a phrase; a rename has none. -/
def words : Correction → List Text
  | rename .. => []
  | phrase p => Unicode.fields p

/-- A rule in words, as it stands in the list of applied corrections. -/
def describe : Correction → Text
  | rename source target =>
    "rename '".toList ++ source ++ "' -> '".toList ++ target ++ "'".toList
  | phrase p => "phrase '".toList ++ p ++ "'".toList

/-- Whether a text has a capital. -/
def hasUppercase (t : Text) : Bool :=
  t.any Unicode.isUppercase

/-- Why a rule is refused, or `none` if it is accepted. -/
def fault? : Correction → Option CorrectionFault
  | rename source target =>
    if source.isEmpty || target.isEmpty then some .missingKey
    else if hasUppercase source then some .sourceNotLowercase
    else if source = target then some .ontoItself
    else none
  | phrase p =>
    if (Unicode.fields p).length < 2 then some .singleWord
    else if hasUppercase p then some .phraseNotLowercase
    else none

end Correction

/-- The fault in words. -/
def CorrectionFault.message : CorrectionFault → Text
  | missingKey => "rename needs both keys".toList
  | sourceNotLowercase => "rename source must be lowercase".toList
  | ontoItself => "rename onto itself".toList
  | singleWord => "phrase needs at least two words".toList
  | phraseNotLowercase => "phrase must be lowercase".toList

end TexCensus
