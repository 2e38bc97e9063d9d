import TexCensus.Data.Value
import TexCensus.Markup.Cleaning
import TexCensus.Settings.Error
import TexCensus.Words.Filter

/-!
# Settings

What an analysis can be told: the language, the words that count, what to clean and how to correct
the counts. Settings are read from a document. A setting that is missing has its default, members
that name no setting are ignored, and a value of the wrong kind refuses the document as a whole.
-/

namespace TexCensus

/-- The settings of an analysis. -/
structure Settings where
  /-- The language of the built-in stopwords and of the stemmer. -/
  language : Language := .portuguese
  /-- A file of stopwords that replaces the built-in list. -/
  stopwordsPath : Option Text := none
  /-- The words of one character. -/
  singleLetters : List Text := ["a", "e", "o", "é", "á", "à", "ó"].map String.toList
  /-- Drop tokens with a character that is not alphabetic. -/
  dropNonAlphabetic : Bool := true
  /-- Drop tokens of one character that are no words. -/
  dropSingleLetters : Bool := true
  /-- The language whose included listings are deleted. -/
  listingLanguage : Text := "python".toList
  /-- The kind of stemmer. -/
  stemmer : StemmerKind := .snowball
  /-- How many keys ranked views show. -/
  rankedLength : Nat := 50
  /-- The corrections, in the order in which they apply. -/
  corrections : List Correction := []
deriving DecidableEq, Repr, Inhabited

/-! ## Corrections in documents -/

namespace Correction

/-- The correction of a kind with the given texts in order. -/
def ofKind? (kind : Text) (arguments : List Value) : Option Correction :=
  if kind = "rename".toList then
    match arguments with
    | [.text source, .text target] => some (.rename source target)
    | _ => none
  else if kind = "phrase".toList then
    match arguments with
    | [.text p] => some (.phrase p)
    | _ => none
  else none

/-- The names of the texts of a kind of correction in documents, in order. -/
def argumentNames (kind : Text) : List Text :=
  if kind = "rename".toList then ["from".toList, "to".toList] else ["phrase".toList]

/-- The correction that a value describes: members with a kind, or an array that begins with the
kind. The kind may stand behind other members, so all of them are read before it is known which of
them matter; integers of more than 64 bits are refused even in those that do not. -/
def ofValue? (v : Value) : Option Correction :=
  if v.integersFit 64 then
    match v with
    | .object members => do
      let kind ← (← List.lookup "kind".toList members).text?
      ofKind? kind (← (argumentNames kind).mapM fun name => List.lookup name members)
    | .array (.text kind :: arguments) => ofKind? kind arguments
    | _ => none
  else none

/-- A correction as it stands in documents. -/
def toValue : Correction → Value
  | rename source target => .object [
      ("kind".toList, .text "rename".toList),
      ("from".toList, .text source),
      ("to".toList, .text target)]
  | phrase p => .object [
      ("kind".toList, .text "phrase".toList),
      ("phrase".toList, .text p)]

theorem ofValue?_toValue (c : Correction) : ofValue? c.toValue = some c := by
  cases c <;> rfl

end Correction

/-! ## Settings in documents -/

namespace Settings

/-- The setting of a given name, its default if the document does not have it. -/
def member {α : Type} (members : List (Text × Value)) (name : String) (default : α)
    (read : Value → Option α) : Option α :=
  (List.lookup name.toList members).elim (some default) read

/-- A path that may be null. -/
def path? : Value → Option (Option Text)
  | .null => some none
  | .text t => some (some t)
  | _ => none

/-- How a notation writes that a name stands alone where it might have a value. -/
inductive Notation where
  /-- JSON writes null. -/
  | json
  /-- TOML has no null and writes an empty table or an empty array. -/
  | toml
deriving DecidableEq, Repr

/-- Whether a value says that a name stands alone. -/
def Notation.isNothing : Notation → Value → Bool
  | json, .null => true
  | toml, .object [] => true
  | toml, .array [] => true
  | _, _ => false

/-- The name of a choice: a text, or the only member of an object, which stands alone. -/
def choice? (n : Notation) : Value → Option Text
  | .text name => some name
  | .object [(name, v)] => if n.isNothing v then some name else none
  | _ => none

/-- The settings of a document, or `none` if a value is of the wrong kind. -/
def ofMembers? (n : Notation) (members : List (Text × Value)) : Option Settings := do
  let default : Settings := {}
  return {
    language :=
      ← member members "language" default.language fun v => (choice? n v).bind Language.ofName?
    stopwordsPath := ← member members "stopwords_path" default.stopwordsPath path?
    singleLetters := ← member members "single_letter_whitelist" default.singleLetters Value.texts?
    dropNonAlphabetic :=
      ← member members "drop_non_alphabetic" default.dropNonAlphabetic Value.bool?
    dropSingleLetters :=
      ← member members "drop_single_letters" default.dropSingleLetters Value.bool?
    listingLanguage := ← member members "inputminted_language" default.listingLanguage Value.text?
    stemmer :=
      ← member members "stemmer" default.stemmer fun v => (choice? n v).bind StemmerKind.ofName?
    rankedLength := ← member members "report_top_n" default.rankedLength Value.natural?
    corrections := ← member members "corrections" default.corrections fun v =>
      v.array?.bind fun items => items.mapM Correction.ofValue? }

/-- The settings of a document with every member written out. -/
def toValue (s : Settings) : Value :=
  .object [
    ("language".toList, .text s.language.name),
    ("stopwords_path".toList, s.stopwordsPath.elim .null .text),
    ("single_letter_whitelist".toList, .array (s.singleLetters.map .text)),
    ("drop_non_alphabetic".toList, .bool s.dropNonAlphabetic),
    ("drop_single_letters".toList, .bool s.dropSingleLetters),
    ("inputminted_language".toList, .text s.listingLanguage),
    ("stemmer".toList, .text s.stemmer.name),
    ("report_top_n".toList, .ofNat s.rankedLength),
    ("corrections".toList, .array (s.corrections.map Correction.toValue))]

/-- Which tokens count as words. -/
def tokenFilter (s : Settings) : TokenFilter where
  dropNonAlphabetic := s.dropNonAlphabetic
  dropSingleLetters := s.dropSingleLetters
  whitelist := s.singleLetters

/-- How texts are cleaned. -/
def cleaner (s : Settings) : Cleaner where
  listingLanguage := s.listingLanguage

end Settings

end TexCensus
