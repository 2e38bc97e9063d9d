import TexCensus.Analysis

/-!
# Setting up analyses

Settings give an analysis if no rule is refused and the word counter can be set up
(`Analysis.ofSettings_eq_ok_iff`). The two do not depend on each other, so rules can be exchanged
for others that are accepted.
-/

namespace TexCensus

/-- Rules pass the check if none of them is refused. -/
theorem checkCorrections_eq_ok_iff {rules : List Correction} :
    checkCorrections rules = .ok () ↔ ∀ rule ∈ rules, rule.fault? = none := by
  have hnone : (rules.findSome? fun rule => rule.fault?.map fun fault => (rule, fault)) = none
      ↔ ∀ rule ∈ rules, rule.fault? = none := by
    simp only [List.findSome?_eq_none_iff, Option.map_eq_none_iff]
  rw [← hnone, checkCorrections]
  split
  · next h => simp [h]
  · next h => simp [h]

/-- Only the empty list of stopwords is refused. -/
theorem Stopwords.exists_ofWords {words : List Text} (h : words ≠ []) :
    ∃ s, Stopwords.ofWords words = .ok s := by
  have hdistinct : (words.map Unicode.lowercase).eraseDups ≠ [] := by
    obtain ⟨word, others, rfl⟩ := List.exists_cons_of_ne_nil h
    rw [List.map_cons, List.eraseDups_cons]
    exact List.cons_ne_nil _ _
  unfold Stopwords.ofWords
  exact ⟨_, dif_neg hdistinct⟩

/-- The filter of a word counter is that of the settings. -/
theorem WordCounter.filter_of_ofSettings {files : Files} {s : Settings} {counter : WordCounter}
    (h : WordCounter.ofSettings files s = .ok counter) : counter.filter = s.tokenFilter := by
  unfold ofSettings at h
  cases hstopwords : Stopwords.ofSettings files s with
  | error e => rw [hstopwords] at h; cases h
  | ok stopwords =>
    cases hstemmer : Stemmer.ofKind s.stemmer s.language with
    | error e => rw [hstopwords, hstemmer] at h; cases h
    | ok stemmer =>
      rw [hstopwords, hstemmer] at h
      cases h
      rfl

namespace Analysis

variable {files : Files} {s : Settings} {a : Analysis}

/-- **Settings give an analysis if their rules are accepted and words can be counted.** -/
theorem ofSettings_eq_ok_iff :
    ofSettings files s = .ok a ↔ (∀ rule ∈ s.corrections, rule.fault? = none)
      ∧ WordCounter.ofSettings files s = .ok a.counter ∧ a.cleaner = s.cleaner
      ∧ a.corrections = s.corrections := by
  rw [← checkCorrections_eq_ok_iff]
  unfold ofSettings
  cases hrules : checkCorrections s.corrections with
  | error e => simp [bind, Except.bind]
  | ok _ =>
    cases hcounter : WordCounter.ofSettings files s with
    | error e => simp [bind, Except.bind]
    | ok counter =>
      constructor
      · intro h
        cases h
        exact ⟨rfl, rfl, rfl, rfl⟩
      · rintro ⟨-, hsame, hcleaner, hcorrections⟩
        cases hsame
        show Except.ok _ = Except.ok a
        rw [← hcleaner, ← hcorrections]

/-- An analysis corrects by the rules of its settings. -/
theorem corrections_of_ofSettings (h : ofSettings files s = .ok a) :
    a.corrections = s.corrections :=
  (ofSettings_eq_ok_iff.1 h).2.2.2

/-- Other rules that are accepted give an analysis that differs in its rules only. -/
theorem ofSettings_with_corrections (h : ofSettings files s = .ok a) {rules : List Correction}
    (hrules : ∀ rule ∈ rules, rule.fault? = none) :
    ofSettings files { s with corrections := rules } = .ok { a with corrections := rules } := by
  obtain ⟨-, hcounter, hcleaner, -⟩ := ofSettings_eq_ok_iff.1 h
  exact ofSettings_eq_ok_iff.2 ⟨hrules, hcounter, hcleaner, rfl⟩

/-- The settings that hold where nothing is said can be set up whatever files there are. -/
theorem exists_ofSettings_default (files : Files) : ∃ a, ofSettings files {} = .ok a := by
  have hne : (StopwordLists.portuguese.flatMap fun l => splitOn ' ' l.toList) ≠ [] := by
    decide +kernel
  obtain ⟨stopwords, hstopwords⟩ := Stopwords.exists_ofWords hne
  have hlist : Stopwords.ofSettings files {} = .ok stopwords := hstopwords
  unfold ofSettings WordCounter.ofSettings
  rw [hlist]
  exact ⟨_, rfl⟩

/-- Where only rules are said, all that are accepted can be set up. -/
theorem exists_ofSettings_corrections (files : Files) {rules : List Correction}
    (h : ∀ rule ∈ rules, rule.fault? = none) :
    ∃ a, ofSettings files { corrections := rules } = .ok a := by
  obtain ⟨a, ha⟩ := exists_ofSettings_default files
  exact ⟨{ a with corrections := rules }, ofSettings_with_corrections ha h⟩

end Analysis

end TexCensus
