import TexCensus.Settings.Error
import TexCensus.Stem.English
import TexCensus.Stem.French
import TexCensus.Stem.German
import TexCensus.Stem.Italian
import TexCensus.Stem.Portuguese
import TexCensus.Stem.Removal
import TexCensus.Stem.Spanish

/-!
# Stemmers

A stemmer maps a token to its stem and never fails. One kind exists for every language, the other
for Portuguese only.
-/

namespace TexCensus

/-- A named map from tokens to stems. -/
structure Stemmer where
  /-- The name of the algorithm. -/
  name : Text
  /-- The stem of a token. -/
  stem : Text → Text

namespace Stemmer

/-- The stemmer that works by regions of a word. -/
def snowball (language : Language) : Stemmer where
  name := StemmerKind.snowball.name
  stem := match language with
    | .portuguese => Stem.Portuguese.stem
    | .english => Stem.English.stem
    | .spanish => Stem.Spanish.stem
    | .french => Stem.French.stem
    | .german => Stem.German.stem
    | .italian => Stem.Italian.stem

/-- The stemmer that removes suffixes by rules alone. -/
def rslp : Stemmer where
  name := StemmerKind.rslp.name
  stem := Stem.Removal.stem

/-- The stemmer of a kind for a language. -/
def ofKind : StemmerKind → Language → Except SetupError Stemmer
  | .snowball, language => .ok (snowball language)
  | .rslp, .portuguese => .ok rslp
  | .rslp, language => .error (.unsupportedLanguage .rslpStemmer language)

end Stemmer

end TexCensus
