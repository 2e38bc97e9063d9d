import TexCensus.Frequency.Basic
import TexCensus.Settings.Error
import TexCensus.Unicode.Lowercase
import TexCensus.Words.StopwordLists

/-!
# Stopwords

Words that the filtered views leave out. A list is built in, given, or read from a text with one
word a line, where blank lines and lines that begin with `#` do not count. Words are lowercased one
by one, and a list without words is refused.
-/

namespace TexCensus

/-- A set of words that is not empty. -/
structure Stopwords where
  /-- The words, each once. -/
  words : List Text
  /-- There is a word. -/
  words_ne_nil : words ≠ []

namespace Stopwords

/-- The list of the given words in lower case. -/
def ofWords (words : List Text) : Except SetupError Stopwords :=
  let distinct := (words.map Unicode.lowercase).eraseDups
  if h : distinct = [] then .error .emptyStopwords else .ok ⟨distinct, h⟩

/-- The words of a text with one word a line. -/
def wordsOfText (t : Text) : List Text :=
  ((lines t).map Unicode.trim).filter fun line => !line.isEmpty && line.head? != some '#'

/-- Reads a list from a text with one word a line. -/
def ofText (t : Text) : Except SetupError Stopwords :=
  ofWords (wordsOfText t)

/-- The list of the library for a language. -/
def builtIn : Language → Except SetupError Stopwords
  | .portuguese => ofWords (StopwordLists.portuguese.flatMap fun l => splitOn ' ' l.toList)
  | .english => ofWords (StopwordLists.english.flatMap fun l => splitOn ' ' l.toList)
  | language => .error (.unsupportedLanguage .stopwordList language)

/-- Whether a word is on the list. -/
def contains (s : Stopwords) (word : Text) : Bool :=
  s.words.contains word

/-- The number of words. -/
def size (s : Stopwords) : Nat :=
  s.words.length

/-- A table without the words on the list. -/
def removeFrom (s : Stopwords) (f : Frequency Text) : Frequency Text :=
  f.filter fun word => !s.contains word

end Stopwords

end TexCensus
