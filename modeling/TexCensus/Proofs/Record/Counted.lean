import TexCensus.Proofs.Record.Coherence
import TexCensus.Proofs.Words.Phrase

/-!
# Rules on counted words

In a record that no rule has changed yet, the views count the words of the text. So what a rule
moves there is as much as what it looks for occurs among the words (`Correction.share_count`), and
it leaves the record alone exactly if that does not occur (`Analysis.correct_eq_self_iff`).
-/

namespace TexCensus

/-! ## What a rule looks for -/

namespace Correction

/-- The texts that a rule looks for among the words, one behind the other. -/
def sought : Correction → List Text
  | rename source _ => [source]
  | phrase p => Unicode.fields p

/-- How often a rule finds among words what it looks for. -/
def occurrences (words : List Text) : Correction → Nat
  | rename source _ => words.count source
  | phrase p => countPhrase words (Unicode.fields p)

/-- A rule that finds something finds every text that it looks for. -/
theorem sought_subset {words : List Text} {rule : Correction} (h : 0 < rule.occurrences words) :
    rule.sought ⊆ words := by
  cases rule with
  | rename source target => simpa [sought] using List.count_pos_iff.1 h
  | phrase p => exact subset_of_countPhrase_pos h

/-- A rule finds what it looks for if there are no other words. -/
theorem occurrences_sought {rule : Correction} (h : rule.sought ≠ []) :
    rule.occurrences rule.sought = 1 := by
  cases rule with
  | rename source target => simp [occurrences, sought]
  | phrase p => exact countPhrase_self h

/-- **A rule moves as much as it finds** where the words have been counted. -/
theorem share_count {words : List Text} {rule : Correction} {source target : Text}
    (h : rule.move? = some (source, target)) :
    rule.share words (words.count source) = rule.occurrences words := by
  cases rule with
  | rename s t =>
    obtain ⟨rfl, rfl⟩ : s = source ∧ t = target := by simpa [move?] using h
    rfl
  | phrase p =>
    obtain ⟨others, hp, -⟩ := phraseKeys?_eq_some h
    rw [share, occurrences, hp, Nat.min_eq_left (countPhrase_le_count source others words)]

theorem occurrences_of_move?_eq_none {words : List Text} {rule : Correction}
    (h : rule.move? = none) : rule.occurrences words = 0 := by
  cases rule with
  | rename source target => cases h
  | phrase p =>
    cases hp : Unicode.fields p with
    | nil => rw [occurrences, hp, countPhrase]
    | cons first others => rw [move?, hp] at h; cases h

end Correction

/-! ## Counted views -/

/-- Words are counted one by one, however they are compared. -/
theorem Frequency.get_count_words (words : List Text) (key : Text) :
    (Frequency.count words).get key = words.count key := by
  rw [get_count]
  congr 1
  exact lawful_beq_subsingleton _ _

/-- The filtered view of words counts those that are no stopwords. -/
theorem WordCounter.get_filteredWordFrequency (c : WordCounter) (words : List Text) (key : Text) :
    (c.count words).filteredWordFrequency.get key
      = if c.stopwords.contains key then 0 else words.count key := by
  rw [count_eq, ← Frequency.filter_count, Frequency.get_filter, Frequency.get_count_words]
  cases c.stopwords.contains key <;> simp

namespace Analysis

variable (a : Analysis) (snapshot : Snapshot) (source : Text)

/-- The full view counts the words. -/
theorem get_wordFrequency (key : Text) :
    (a.uncorrected snapshot source).words.wordFrequency.get key = (a.words source).count key := by
  rw [uncorrected, WordCounter.count_eq, Frequency.get_count_words]

/-- The filtered view counts the words that are no stopwords. -/
theorem get_filteredWordFrequency (key : Text) :
    (a.uncorrected snapshot source).words.filteredWordFrequency.get key
      = if a.counter.stopwords.contains key then 0 else (a.words source).count key :=
  a.counter.get_filteredWordFrequency (a.words source) key

/-- **The views of a record are those of the counted words after all rules.** -/
theorem views_record {files : Files} {s : Settings} {a : Analysis}
    (h : ofSettings files s = .ok a) (snapshot : Snapshot) (source : Text) :
    let counted := (a.uncorrected snapshot source).words
    let w := (a.record snapshot source).words
    w.wordFrequency = counted.wordFrequency.correctAll (a.words source) s.corrections
      ∧ w.filteredWordFrequency
        = counted.filteredWordFrequency.correctAll (a.words source) s.corrections := by
  intro counted w
  have hrecord : a.record snapshot source = _ :=
    (a.uncorrected snapshot source).correct_eq (a.words source) a.corrections
  rw [corrections_of_ofSettings h] at hrecord
  have hw : w = _ := congrArg Record.words hrecord
  rw [hw]
  exact ⟨rfl, rfl⟩

end Analysis

/-! ## One rule on a counted record -/

/-- A rule leaves a record alone if it finds nothing in the full view. -/
theorem Record.correct_singleton_eq_self_iff {r : Record} {words : List Text} {rule : Correction}
    (hle : ∀ key, r.words.filteredWordFrequency.get key ≤ r.words.wordFrequency.get key) :
    r.correct words [rule] = r ↔ (r.words.wordFrequency.correct words rule).1 = false := by
  have hfiltered (hfull : (r.words.wordFrequency.correct words rule).1 = false) :
      (r.words.filteredWordFrequency.correct words rule).1 = false := by
    cases hmove : rule.move? with
    | none => rw [Frequency.correct_of_move?_eq_none _ words hmove]
    | some keys =>
      obtain ⟨source, target⟩ := keys
      have hshare := rule.share_mono words (hle source)
      rw [(Frequency.correct_moves _ words hmove).1, decide_eq_false_iff_not] at hfull ⊢
      omega
  rw [correct_eq]
  constructor
  · intro hsame
    have hnone := congrArg Record.corrections hsame
    by_contra hchanged
    rw [Bool.not_eq_false] at hchanged
    simp [effective, hchanged] at hnone
  · intro hfull
    have hnone :
        effective words [rule] r.words.wordFrequency r.words.filteredWordFrequency = [] := by
      simp [effective, hfull, hfiltered hfull]
    obtain ⟨hword, hfilteredWord⟩ := correctAll_of_effective_eq_nil words [rule] hnone
    rw [hnone, hword, hfilteredWord, List.map_nil, List.append_nil]

namespace Analysis

variable (a : Analysis) (snapshot : Snapshot) (source : Text) (rule : Correction)

/-- A rule says of the full view that it changed it if what it looks for occurs. -/
theorem fst_correct_wordFrequency :
    ((a.uncorrected snapshot source).words.wordFrequency.correct (a.words source) rule).1
      = decide (0 < rule.occurrences (a.words source)) := by
  cases hmove : rule.move? with
  | none =>
    rw [Frequency.correct_of_move?_eq_none _ _ hmove, Correction.occurrences_of_move?_eq_none hmove]
    rfl
  | some keys =>
    obtain ⟨key, target⟩ := keys
    rw [(Frequency.correct_moves _ _ hmove).1, a.get_wordFrequency, Correction.share_count hmove]

/-- **A rule leaves a counted record alone exactly if what it looks for does not occur.** -/
theorem correct_eq_self_iff :
    (a.uncorrected snapshot source).correct (a.words source) [rule] = a.uncorrected snapshot source
      ↔ rule.occurrences (a.words source) = 0 := by
  rw [Record.correct_singleton_eq_self_iff (a.coherent_uncorrected snapshot source).filtered_le,
    fst_correct_wordFrequency, decide_eq_false_iff_not, Nat.not_lt, Nat.le_zero]

/-- **A rule is listed exactly if what it looks for occurs.** -/
theorem corrections_correct_singleton :
    ((a.uncorrected snapshot source).correct (a.words source) [rule]).corrections
      = if 0 < rule.occurrences (a.words source) then [rule.describe] else [] := by
  split
  · next hpos =>
    have hchanged := a.fst_correct_wordFrequency snapshot source rule
    rw [decide_eq_true hpos] at hchanged
    rw [Record.correct_eq]
    simp only [Record.effective, hchanged, Bool.true_or, if_true]
    rfl
  · next hnone =>
    rw [(a.correct_eq_self_iff snapshot source rule).2 (Nat.eq_zero_of_not_pos hnone)]
    rfl

end Analysis

end TexCensus
