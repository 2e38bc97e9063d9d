import TexCensus.Proofs.Record.Corrections
import TexCensus.Proofs.Record.Setup
import TexCensus.Proofs.Words.Counts

/-!
# Coherent records

The numbers of a record say the same thing in several ways: the views of the words add up to the
numbers of words, the filtered views lie inside the full ones, and the equations are the sum of their
kinds. Counting makes such a record and corrections keep it so, whatever the settings
(`Analysis.coherent_record`).
-/

namespace TexCensus

/-! ## Coherence -/

/-- The numbers of a record agree with one another. -/
structure Record.Coherent (r : Record) : Prop where
  /-- No number of subfigures stands twice and none counts zero. -/
  figures_wellFormed : Ledger.WellFormed r.markup.subfiguresPerFigure.toList
  /-- In no other table does a key stand twice or count zero. -/
  tables_wellFormed : ∀ f ∈ [r.markup.commands, r.markup.environments, r.words.wordFrequency,
    r.words.filteredWordFrequency, r.words.stemFrequency, r.words.filteredStemFrequency],
    Ledger.WellFormed f.toList
  /-- The filtered view counts no word more often than the full view. -/
  filtered_le : ∀ word,
    r.words.filteredWordFrequency.get word ≤ r.words.wordFrequency.get word
  /-- The counts of the words add up to their number. -/
  total_words : r.words.wordFrequency.total = r.words.words
  /-- Every word has a stem. -/
  stems_eq : r.words.stems = r.words.words
  /-- The counts of the stems add up to their number. -/
  total_stems : r.words.stemFrequency.total = r.words.stems
  /-- The filtered views have the same sum. -/
  total_filtered : r.words.filteredWordFrequency.total = r.words.filteredStemFrequency.total
  /-- The filtered views leave words out and add none. -/
  total_filtered_le : r.words.filteredWordFrequency.total ≤ r.words.words
  /-- The filtered view counts no stem more often than the full view. -/
  filteredStems_le : ∀ stem,
    r.words.filteredStemFrequency.get stem ≤ r.words.stemFrequency.get stem
  /-- Distinct stems come from distinct words. -/
  distinctStems_le : r.words.distinctStems ≤ r.words.distinctWords
  /-- There are no more distinct words than words. -/
  distinctWords_le : r.words.distinctWords ≤ r.words.words
  /-- The equations are the display equations and the equation environments. -/
  equations_eq : r.markup.equations = r.markup.displayEquations + r.markup.equationEnvironments

namespace Record

/-- Coherent counts are consistent. -/
theorem Coherent.consistent {r : Record} (h : r.Coherent) : r.words.Consistent := by
  refine ⟨h.distinctWords_le, ?_, (Frequency.atMost_iff _ _).2 h.filtered_le⟩
  rw [h.stems_eq]
  exact Nat.le_trans h.distinctStems_le h.distinctWords_le

/-- **Corrections keep a record coherent.** -/
theorem Coherent.correct {r : Record} (h : r.Coherent) (words : List Text)
    (rules : List Correction) : (r.correct words rules).Coherent := by
  have hw := r.words.wordFrequency.kept_correctAll words rules
  have hf := r.words.filteredWordFrequency.kept_correctAll words rules
  rw [correct_eq]
  exact {
    figures_wellFormed := h.figures_wellFormed
    tables_wellFormed := fun f _ => f.wellFormed
    filtered_le := Frequency.correctAll_le words rules h.filtered_le
    total_words := hw.total_eq.trans h.total_words
    stems_eq := h.stems_eq
    total_stems := h.total_stems
    total_filtered := hf.total_eq.trans h.total_filtered
    total_filtered_le := hf.total_eq.trans_le h.total_filtered_le
    filteredStems_le := h.filteredStems_le
    distinctStems_le := h.distinctStems_le
    distinctWords_le := h.distinctWords_le
    equations_eq := h.equations_eq }

end Record

/-! ## Records of texts -/

namespace Analysis

/-- **Counting makes a coherent record.** -/
theorem coherent_uncorrected (a : Analysis) (snapshot : Snapshot) (source : Text) :
    (a.uncorrected snapshot source).Coherent := by
  have hsub := List.filter_sublist (p := fun word => !a.counter.stopwords.contains word)
    (l := a.words source)
  unfold uncorrected
  rw [WordCounter.count_eq]
  exact {
    figures_wellFormed := Frequency.wellFormed _
    tables_wellFormed := fun f _ => f.wellFormed
    filtered_le := Frequency.get_count_le hsub
    total_words := Frequency.total_count _
    stems_eq := rfl
    total_stems := by rw [Frequency.total_count, List.length_map]
    total_filtered := by
      rw [Frequency.total_count, Frequency.total_count, List.length_map]
    total_filtered_le := by
      rw [Frequency.total_count]
      exact hsub.length_le
    filteredStems_le := Frequency.get_count_le (hsub.map _)
    distinctStems_le := distinctCount_map_le _ _
    distinctWords_le := distinctCount_le _
    equations_eq := Markup.counts_equationsAddUp _ }

/-- Without rules the distinct words are the keys of the view. -/
theorem sizes_of_uncorrected (a : Analysis) (snapshot : Snapshot) (source : Text) :
    let w := (a.uncorrected snapshot source).words
    w.wordFrequency.size = w.distinctWords ∧ w.stemFrequency.size = w.distinctStems :=
  ⟨(distinctCount_eq_size _).symm, (distinctCount_eq_size _).symm⟩

/-- **Every record is coherent.** Whatever settings are accepted, the numbers of the record of any
text agree with one another, so neither the counted record nor the corrected one is ever
inconsistent. Without corrections the numbers of distinct words and stems are the sizes of their
tables. -/
theorem coherent_record {files : Files} {s : Settings} {a : Analysis}
    (h : ofSettings files s = .ok a) (snapshot : Snapshot) (source : Text) :
    let r := a.record snapshot source
    r.Coherent
      ∧ (a.uncorrected snapshot source).markup.EquationsAddUp
      ∧ (a.uncorrected snapshot source).words.Consistent ∧ r.words.Consistent
      ∧ (s.corrections = [] →
          r.words.wordFrequency.size = r.words.distinctWords
            ∧ r.words.stemFrequency.size = r.words.distinctStems) := by
  intro r
  have hcounted := a.coherent_uncorrected snapshot source
  have hr : r.Coherent := hcounted.correct (a.words source) a.corrections
  refine ⟨hr, hcounted.equations_eq, hcounted.consistent, hr.consistent, ?_⟩
  intro hnone
  have hsame : r = a.uncorrected snapshot source := by
    show (a.uncorrected snapshot source).correct (a.words source) a.corrections = _
    rw [corrections_of_ofSettings h, hnone]
    rfl
  rw [hsame]
  exact a.sizes_of_uncorrected snapshot source

/-- A file of two stopwords, the stemmer by rules alone, a rename and a phrase. -/
theorem coherent_record_of_stopword_file :
    let files : Files := { root := .folder [("stop.txt".toList, .file [111, 10, 97])] }
    let s : Settings := {
      stopwordsPath := some "stop.txt".toList
      stemmer := .rslp
      corrections := [.rename "nasal".toList "NaSal".toList,
        .phrase "micelas gigantes".toList] }
    ∃ a, ofSettings files s = .ok a
      ∧ (a.record {} "o spray nasal e as micelas gigantes".toList).Coherent := by
  intro files s
  have hok : (ofSettings files s).isOk = true := by
    unfold files s
    decide +kernel
  cases h : ofSettings files s with
  | error e => rw [h] at hok; cases hok
  | ok a => exact ⟨a, rfl, (coherent_record h {} _).1⟩

end Analysis

end TexCensus
