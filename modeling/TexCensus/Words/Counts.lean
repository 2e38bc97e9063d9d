import Std.Data.HashSet
import TexCensus.Words.Filter
import TexCensus.Words.Stemmer
import TexCensus.Words.Stopwords
import TexCensus.Words.Token

/-!
# Word counts

Cleaned text becomes tokens, tokens that are no words are dropped, and what is left is counted as
words and as stems. Each of the two has a full view and a filtered one without stopwords; whether a
stem is in the filtered view depends on the word it comes from.
-/

namespace TexCensus

/-- The number of distinct members of a list. -/
def distinctCount (words : List Text) : Nat :=
  (words.foldl (fun seen word => seen.insert word) (∅ : Std.HashSet Text)).size

/-- What was counted in the words of one text. -/
structure WordCounts where
  /-- Words, repetitions included. -/
  words : Nat := 0
  /-- Distinct words. -/
  distinctWords : Nat := 0
  /-- Stems, repetitions included. -/
  stems : Nat := 0
  /-- Distinct stems. -/
  distinctStems : Nat := 0
  /-- How often each word occurs. -/
  wordFrequency : Frequency Text := ∅
  /-- How often each word occurs, without stopwords. -/
  filteredWordFrequency : Frequency Text := ∅
  /-- How often each stem occurs. -/
  stemFrequency : Frequency Text := ∅
  /-- How often each stem occurs in words that are no stopwords. -/
  filteredStemFrequency : Frequency Text := ∅
deriving DecidableEq

/-- Whether a table counts no key more often than another table does. -/
def Frequency.AtMost {K : Type} [DecidableEq K] [Hashable K] (f g : Frequency K) : Prop :=
  ∀ e ∈ f.toList, e.2 ≤ g.get e.1

instance {K : Type} [DecidableEq K] [Hashable K] (f g : Frequency K) : Decidable (f.AtMost g) :=
  inferInstanceAs (Decidable (∀ e ∈ f.toList, _))

namespace WordCounts

/-- Whether the numbers of a record agree: there are no more distinct words and stems than words
and stems, and the filtered view of the words counts no word more often than the full view. -/
def Consistent (w : WordCounts) : Prop :=
  w.distinctWords ≤ w.words ∧ w.distinctStems ≤ w.stems
    ∧ w.filteredWordFrequency.AtMost w.wordFrequency

instance (w : WordCounts) : Decidable w.Consistent :=
  inferInstanceAs (Decidable (_ ∧ _ ∧ _))

end WordCounts

/-- How words are counted. -/
structure WordCounter where
  /-- Which tokens are words. -/
  filter : TokenFilter
  /-- The words that the filtered views leave out. -/
  stopwords : Stopwords
  /-- The map from words to stems. -/
  stemmer : Stemmer

namespace WordCounter

/-- The words of a cleaned text. -/
def words (c : WordCounter) (cleaned : Text) : List Text :=
  (tokens cleaned).filter c.filter.keeps

/-- The stems of words. -/
def stems (c : WordCounter) (words : List Text) : List Text :=
  words.map c.stemmer.stem

/-- The stems of the words that are no stopwords. -/
def filteredStems (c : WordCounter) (words : List Text) : List Text :=
  ((words.zip (c.stems words)).filter fun (word, _) => !c.stopwords.contains word).map Prod.snd

/-- Counts words. -/
def count (c : WordCounter) (words : List Text) : WordCounts :=
  -- Word frequencies are asked for twice and stems three times, so both have names.
  let stems := c.stems words
  let wordFrequency := Frequency.count words
  { words := words.length
    distinctWords := distinctCount words
    stems := stems.length
    distinctStems := distinctCount stems
    wordFrequency := wordFrequency
    filteredWordFrequency := c.stopwords.removeFrom wordFrequency
    stemFrequency := Frequency.count stems
    filteredStemFrequency := Frequency.count (c.filteredStems words) }

end WordCounter

end TexCensus
