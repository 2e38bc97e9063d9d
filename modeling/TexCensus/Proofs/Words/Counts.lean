import TexCensus.Proofs.Frequency.Merge
import TexCensus.Words.Counts

/-!
# What counted words satisfy

The four views of the words of a text are tables that count four lists: the words, the words that
are no stopwords, and the stems of either (`WordCounter.count_eq`). Everything that ties the views
together comes from what ties the lists together.
-/

namespace TexCensus

/-! ## Distinct members -/

theorem size_foldl_insert (words : List Text) (seen : Std.HashSet Text) (s : Finset Text)
    (hs : ∀ word, word ∈ seen ↔ word ∈ s) (hsize : seen.size = s.card) :
    (words.foldl (fun seen word => seen.insert word) seen).size = (s ∪ words.toFinset).card := by
  induction words generalizing seen s with
  | nil => simpa using hsize
  | cons word words ih =>
    rw [List.foldl_cons, List.toFinset_cons, Finset.union_insert, ← Finset.insert_union]
    apply ih
    · intro word'
      rw [Std.HashSet.mem_insert, Finset.mem_insert, hs, beq_iff_eq, eq_comm]
    · rw [Std.HashSet.size_insert]
      by_cases hmem : word ∈ s
      · rw [if_pos ((hs word).2 hmem), Finset.insert_eq_of_mem hmem, hsize]
      · rw [if_neg (mt (hs word).1 hmem), Finset.card_insert_of_notMem hmem, hsize]

/-- **The number of distinct words is the size of their set.** -/
theorem distinctCount_eq (words : List Text) : distinctCount words = words.toFinset.card := by
  rw [distinctCount, size_foldl_insert words ∅ ∅ (by simp) (by simp), Finset.empty_union]

theorem distinctCount_le (words : List Text) : distinctCount words ≤ words.length := by
  rw [distinctCount_eq]
  exact List.toFinset_card_le words

/-- A map makes no more members distinct. -/
theorem distinctCount_map_le (g : Text → Text) (words : List Text) :
    distinctCount (words.map g) ≤ distinctCount words := by
  have himage : (words.map g).toFinset = words.toFinset.image g := by
    ext word
    simp
  rw [distinctCount_eq, distinctCount_eq, himage]
  exact Finset.card_image_le

theorem distinctCount_eq_size (words : List Text) :
    distinctCount words = (Frequency.count words).size := by
  rw [distinctCount_eq, Frequency.size_count]

/-! ## Order between views -/

theorem Frequency.atMost_iff {K : Type} [DecidableEq K] [Hashable K] (f g : Frequency K) :
    f.AtMost g ↔ ∀ key, f.get key ≤ g.get key := by
  constructor
  · intro h key
    by_cases hkey : key ∈ f.keys
    · obtain ⟨e, he, rfl⟩ := List.mem_map.1 hkey
      rw [f.get_eq, Ledger.get_of_mem f.wellFormed.keys_nodup he]
      exact h e he
    · rw [f.get_eq, Ledger.get_of_not_mem hkey]
      exact Nat.zero_le _
  · intro h e he
    rw [← Ledger.get_of_mem f.wellFormed.keys_nodup he, ← f.get_eq]
    exact h e.1

/-! ## The views -/

namespace WordCounter

/-- The stems of the words that are no stopwords, word by word. -/
theorem filteredStems_eq (c : WordCounter) (words : List Text) :
    c.filteredStems words
      = (words.filter fun word => !c.stopwords.contains word).map c.stemmer.stem := by
  unfold filteredStems stems
  induction words with
  | nil => rfl
  | cons word words ih =>
    simp only [List.map_cons, List.zip_cons_cons, List.filter_cons]
    by_cases hstop : (!c.stopwords.contains word) = true
    · rw [if_pos hstop, if_pos hstop, List.map_cons, List.map_cons, ih]
    · rw [if_neg hstop, if_neg hstop, ih]

/-- **The views count the words, the words that are no stopwords, and the stems of either.** -/
theorem count_eq (c : WordCounter) (words : List Text) :
    let kept := words.filter fun word => !c.stopwords.contains word
    c.count words = {
      words := words.length
      distinctWords := distinctCount words
      stems := words.length
      distinctStems := distinctCount (words.map c.stemmer.stem)
      wordFrequency := .count words
      filteredWordFrequency := .count kept
      stemFrequency := .count (words.map c.stemmer.stem)
      filteredStemFrequency := .count (kept.map c.stemmer.stem) } := by
  simp only [count, filteredStems_eq, stems, List.length_map, Stopwords.removeFrom,
    Frequency.filter_count]

/-- **The views of the words determine the views of the stems.** Whatever the filter, the stopwords
and the stemmer, either view of the stems is made by going through the matching view of the words
and adding each count to the stem of its word, first-seen order included. -/
theorem stemViews_eq (c : WordCounter) (cleaned : Text) :
    let w := c.count (c.words cleaned)
    w.stemFrequency
        = .ofPairs (w.wordFrequency.toList.map fun (word, n) => (c.stemmer.stem word, n))
      ∧ w.filteredStemFrequency
        = .ofPairs (w.filteredWordFrequency.toList.map fun (word, n) => (c.stemmer.stem word, n)) := by
  intro w
  have hw : w = _ := c.count_eq (c.words cleaned)
  rw [hw]
  exact ⟨Frequency.count_map c.stemmer.stem _, Frequency.count_map c.stemmer.stem _⟩

end WordCounter

end TexCensus
