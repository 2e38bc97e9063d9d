import TexCensus.Record.Basic
import TexCensus.Words.Correction

/-!
# Correcting records

Corrections change how often words occur, in the full and in the filtered view, and nothing else.
Each rule works on the views that the rules before it left behind, but phrases are always looked
for in the words of the text. A rule that changes a view is listed in the record.
-/

namespace TexCensus

/-! ## Phrases -/

/-- How often a phrase occurs among words, taken from the left without overlap, added to `found`.
The phrase consists of `first` and the words of `others`. -/
def countPhraseFrom (first : Text) (others : List Text) (found : Nat) : List Text → Nat
  | [] => found
  | word :: rest =>
    if word = first && others.isPrefixOf rest then
      countPhraseFrom first others (found + 1) (rest.drop others.length)
    else countPhraseFrom first others found rest
termination_by words => words.length
decreasing_by all_goals simp only [List.length_drop, List.length_cons]; omega

/-- How often a phrase occurs among words, taken from the left without overlap. A phrase without
words does not occur. -/
def countPhrase (words : List Text) : List Text → Nat
  | [] => 0
  | first :: others => countPhraseFrom first others 0 words

/-! ## One view -/

namespace Frequency

/-- Moves the count of a key to another key and says whether there was one. -/
def rename (f : Frequency Text) (source target : Text) : Bool × Frequency Text :=
  match f.remove source with
  | (some n, f) => (true, f.add target n)
  | (none, f) => (false, f)

/-- Takes up to `n` occurrences of the first word of a phrase away, counts the phrase as often, and
says whether it took any. -/
def takePhrase (f : Frequency Text) (phrase : List Text) (n : Nat) : Bool × Frequency Text :=
  match phrase with
  | [] => (false, f)
  | first :: _ =>
    let (taken, f) := f.subtract first n
    (0 < taken, f.add (joinWith [' '] phrase) taken)

/-- Applies a rule to a view of the given words and says whether it changed anything. -/
def correct (f : Frequency Text) (words : List Text) : Correction → Bool × Frequency Text
  | .rename source target => f.rename source target
  | .phrase p =>
    let phrase := Unicode.fields p
    f.takePhrase phrase (countPhrase words phrase)

end Frequency

/-! ## Records -/

/-- Both views of the words of a record while rules are applied to them. -/
structure Views where
  /-- The full view. -/
  wordFrequency : Frequency Text
  /-- The filtered view. -/
  filteredWordFrequency : Frequency Text
  /-- The rules that changed a view, in words. -/
  applied : List Text := []

/-- Applies a rule to both views of the given words and lists it if it changed one of them. -/
def Views.correct (words : List Text) (v : Views) (rule : Correction) : Views :=
  let (inWords, wordFrequency) := v.wordFrequency.correct words rule
  let (inFiltered, filteredWordFrequency) := v.filteredWordFrequency.correct words rule
  { wordFrequency, filteredWordFrequency
    applied := if inWords || inFiltered then v.applied ++ [rule.describe] else v.applied }

namespace Record

/-- The record with corrected views and the rules that corrected them. -/
def amended (r : Record) (v : Views) : Record :=
  { r with
    words := { r.words with
      wordFrequency := v.wordFrequency
      filteredWordFrequency := v.filteredWordFrequency }
    corrections := r.corrections ++ v.applied }

/-- Applies rules in order to the record of a text with the given words. If none changes a view,
the record stays as it is. -/
def correct (r : Record) (words : List Text) (rules : List Correction) : Record :=
  let views := rules.foldl (Views.correct words)
    { wordFrequency := r.words.wordFrequency
      filteredWordFrequency := r.words.filteredWordFrequency }
  if views.applied.isEmpty then r else r.amended views

end Record

end TexCensus
