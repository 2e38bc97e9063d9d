import TexCensus.Frequency.Ledger64
import TexCensus.Json.Reader
import TexCensus.Record.Corrections

/-!
# Stored records

A record that comes from elsewhere may hold counts of any size that 64 bits hold, so correcting it
can bring a sum that does not fit. A `Record64` is a record with its tables as they are stored.
`Record64.correct` applies rules to it as `Record.correct` does to a record that was just counted.
-/

namespace TexCensus

/-! ## Tables -/

namespace Ledger64

/-- Reads a table. -/
def read {K : Type} [DecidableEq K] (key? : Value → Option K) (t : Text) :
    Except Json.Fault (Ledger64 K) :=
  ((Json.Reader.counts key?).runText .start t).map ofPairs

/-- Moves the count of a key to another key and says whether the key was there. -/
def rename (t : Ledger64 Text) (source target : Text) : Bool × Ledger64 Text :=
  match t.remove source with
  | (some n, t) => (true, t.add target n)
  | (none, t) => (false, t)

/-- Takes up to `n` occurrences of the first word of a phrase away, counts the phrase as often, and
says whether it took any. -/
def takePhrase (t : Ledger64 Text) (phrase : List Text) (n : Nat) : Bool × Ledger64 Text :=
  match phrase with
  | [] => (false, t)
  | first :: _ =>
    let (taken, t) := t.subtract first n
    (0 < taken, t.add (joinWith [' '] phrase) taken)

/-- Applies a rule to a view of the given words and says whether it found anything to move. -/
def correct (t : Ledger64 Text) (words : List Text) : Correction → Bool × Ledger64 Text
  | .rename source target => t.rename source target
  | .phrase p =>
    let phrase := Unicode.fields p
    t.takePhrase phrase (countPhrase words phrase)

end Ledger64

/-! ## Records -/

/-- What was counted in the words of one text, as it is stored. -/
structure WordCounts64 where
  /-- Words, repetitions included. -/
  words : Nat := 0
  /-- Distinct words. -/
  distinctWords : Nat := 0
  /-- Stems, repetitions included. -/
  stems : Nat := 0
  /-- Distinct stems. -/
  distinctStems : Nat := 0
  /-- How often each word occurs. -/
  wordFrequency : Ledger64 Text := ∅
  /-- How often each word occurs, without stopwords. -/
  filteredWordFrequency : Ledger64 Text := ∅
  /-- How often each stem occurs. -/
  stemFrequency : Ledger64 Text := ∅
  /-- How often each stem occurs in words that are no stopwords. -/
  filteredStemFrequency : Ledger64 Text := ∅
deriving DecidableEq

/-- What is known about a snapshot, with the words as they are stored. -/
structure Record64 where
  /-- Which snapshot it is. -/
  snapshot : Snapshot := {}
  /-- What was counted in its markup. -/
  markup : MarkupCounts := {}
  /-- What was counted in its words. -/
  words : WordCounts64 := {}
  /-- The corrections that changed counts, in words. -/
  corrections : List Text := []
deriving DecidableEq

/-- Both stored views of the words of a record while rules are applied to them. -/
structure Views64 where
  /-- The full view. -/
  wordFrequency : Ledger64 Text
  /-- The filtered view. -/
  filteredWordFrequency : Ledger64 Text
  /-- The rules that found something to move in a view, in words. -/
  applied : List Text := []

/-- Applies a rule to both views of the given words and lists it if it found something to move. -/
def Views64.correct (words : List Text) (v : Views64) (rule : Correction) : Views64 :=
  let (inWords, wordFrequency) := v.wordFrequency.correct words rule
  let (inFiltered, filteredWordFrequency) := v.filteredWordFrequency.correct words rule
  { wordFrequency, filteredWordFrequency
    applied := if inWords || inFiltered then v.applied ++ [rule.describe] else v.applied }

namespace Record64

/-- The views of a record before any rule is applied. -/
def views (r : Record64) : Views64 where
  wordFrequency := r.words.wordFrequency
  filteredWordFrequency := r.words.filteredWordFrequency

/-- The record with corrected views and the rules that corrected them. -/
def amended (r : Record64) (v : Views64) : Record64 :=
  { r with
    words := { r.words with
      wordFrequency := v.wordFrequency
      filteredWordFrequency := v.filteredWordFrequency }
    corrections := r.corrections ++ v.applied }

/-- Applies rules in order to the record of a text with the given words. If none finds anything to
move, the record stays as it is. -/
def correct (r : Record64) (words : List Text) (rules : List Correction) : Record64 :=
  let after := rules.foldl (Views64.correct words) r.views
  if after.applied.isEmpty then r else r.amended after

end Record64

end TexCensus
