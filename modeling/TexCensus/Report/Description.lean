import TexCensus.Report.Quoted
import TexCensus.Words.Counts

/-!
# Describing word counters

One line that says how a word counter is set up, for people who look for the cause of a count.
-/

namespace TexCensus

/-- A flag in words. -/
def flagText (b : Bool) : Text :=
  if b then "true".toList else "false".toList

/-- A structure with named parts. -/
def describeParts (name : String) (parts : List (String × Text)) : Text :=
  name.toList ++ " \x7b ".toList
    ++ joinWith ", ".toList (parts.map fun (part, shown) => part.toList ++ ": ".toList ++ shown)
    ++ " \x7d".toList

/-- A token filter in words. -/
def TokenFilter.describe (f : TokenFilter) : Text :=
  describeParts "TokenFilter" [
    ("drop_non_alphabetic", flagText f.dropNonAlphabetic),
    ("drop_single_letters", flagText f.dropSingleLetters),
    ("whitelist",
      ['\x7b'] ++ joinWith ", ".toList (f.whitelist.eraseDups.map Report.quoted) ++ ['\x7d'])]

/-- A word counter in words. -/
def WordCounter.describe (c : WordCounter) : Text :=
  describeParts "Aggregator" [
    ("filter", c.filter.describe),
    ("stopwords", decimal c.stopwords.size),
    ("stemmer", Report.quoted c.stemmer.name)]

/-- The name of a language with a capital. -/
def Language.title : Language → Text
  | portuguese => "Portuguese".toList
  | english => "English".toList
  | spanish => "Spanish".toList
  | french => "French".toList
  | german => "German".toList
  | italian => "Italian".toList

/-- A stemmer of a kind for a language in words. -/
def StemmerKind.describe (language : Language) : StemmerKind → Text
  | snowball => describeParts "SnowballStemmer" [("algorithm", language.title)]
  | rslp => "RslpStemmer".toList

end TexCensus
