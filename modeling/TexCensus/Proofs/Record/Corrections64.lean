import TexCensus.Analysis
import TexCensus.Proofs.Frequency.Ledger64
import TexCensus.Proofs.Record.Corrections

/-!
# What corrections keep of a stored record

Rules move counts from key to key, and a stored table holds 64 bits of the sum that a key ends up
with.

* Whatever the counts are, that keeps the sum of a view in 64 bits, the entries of all keys that no
  rule names and their order (`Ledger64.Kept`).
* That no count is zero and that the filtered view counts nothing more often than the full view can
  be lost, but only if the counts of the full view add up to more than 64 bits hold. Below that
  bound a stored record is corrected as if its counts had no bound (`Record64.correct_holds`), and
  records that were just counted are below it (`Analysis.record_holds`).
-/

namespace TexCensus

/-! ## One view -/

namespace Ledger64

/-- What rules keep of a view, however large its counts are. -/
structure Kept (rules : List Correction) (t u : Ledger64 Text) : Prop where
  /-- No key stands twice. -/
  keys_nodup : u.entries.keys.Nodup
  /-- The sum stays the same in 64 bits. -/
  total_eq : u.total = t.total
  /-- A key that no rule names keeps its count. -/
  get_eq : ∀ key : Text, (∀ rule ∈ rules, rule.names key = false) → u.get key = t.get key
  /-- The entries of such keys stay as they are, in the same order. -/
  filter_eq : ∀ p : Text → Bool,
    (∀ rule ∈ rules, ∀ key : Text, rule.names key = true → p key = false) →
    (u.entries.filter fun e => p e.1) = t.entries.filter fun e => p e.1

theorem Kept.refl (rules : List Correction) (t : Ledger64 Text) : Kept rules t t where
  keys_nodup := t.keys_nodup
  total_eq := rfl
  get_eq := fun _ _ => rfl
  filter_eq := fun _ _ => rfl

theorem Kept.cons {rule : Correction} {rules : List Correction} {t u v : Ledger64 Text}
    (htu : Kept [rule] t u) (huv : Kept rules u v) : Kept (rule :: rules) t v where
  keys_nodup := v.keys_nodup
  total_eq := huv.total_eq.trans htu.total_eq
  get_eq := by
    intro key hkey
    rw [List.forall_mem_cons] at hkey
    rw [huv.get_eq key hkey.2, htu.get_eq key (List.forall_mem_singleton.2 hkey.1)]
  filter_eq := by
    intro p hp
    rw [List.forall_mem_cons] at hp
    rw [huv.filter_eq p hp.2, htu.filter_eq p (List.forall_mem_singleton.2 hp.1)]

/-- A rule that gives to its target what it took out, be it all of a count or a part, keeps the rest
of a view. -/
theorem kept_of_move {rule : Correction} {source target : Text}
    (hmove : rule.move? = some (source, target)) {t u : Ledger64 Text} {n : Nat}
    (htotal : u.entries.total + n = t.entries.total)
    (hget : ∀ key, source ≠ key → u.get key = t.get key)
    (hfilter : ∀ p : Text → Bool, p source = false →
      (u.entries.filter fun e => p e.1) = t.entries.filter fun e => p e.1) :
    Kept [rule] t (u.add target n) := by
  have hnames (key : Text) : rule.names key = (key = source || key = target) := by
    simp [Correction.names, hmove]
  refine ⟨Ledger64.keys_nodup _, ?_, ?_, ?_⟩
  · rw [total_add, htotal, total]
  · intro key hkey
    have hk := hkey rule (by simp)
    rw [hnames, Bool.or_eq_false_iff, decide_eq_false_iff_not, decide_eq_false_iff_not] at hk
    rw [get_add _ _ _ _ (Ne.symm hk.2), hget key (Ne.symm hk.1)]
  · intro p hp
    rw [filter_add (hp rule (by simp) target (by simp [hnames])),
      hfilter p (hp rule (by simp) source (by simp [hnames]))]

theorem kept_rename (t : Ledger64 Text) (source target : Text) :
    Kept [.rename source target] t (t.rename source target).2 := by
  unfold rename remove
  split
  · next n u h =>
    split at h
    · cases h
      exact kept_of_move rfl (Ledger.total_erase source t.entries)
        (fun key hkey => by rw [get_erase, if_neg hkey]) fun p hp => Ledger.filter_erase hp _
    · cases h
  · next u h =>
    split at h
    · cases h
    · cases h
      exact .refl _ t

theorem kept_takePhrase (t : Ledger64 Text) (p : Text) (n : Nat) :
    Kept [.phrase p] t (t.takePhrase (Unicode.fields p) n).2 := by
  cases hp : Unicode.fields p with
  | nil => exact .refl _ t
  | cons first others =>
    have hmove : (Correction.phrase p).move? = some (first, joinWith [' '] (first :: others)) := by
      simp [Correction.move?, hp, Correction.phraseKeys?]
    exact kept_of_move hmove (Ledger.total_take first n t.entries)
      (fun key hkey => by rw [get_take, if_neg hkey, Nat.sub_zero])
      fun p hp => Ledger.filter_take hp _ _

/-- What one rule keeps of a view. -/
theorem kept_correct (t : Ledger64 Text) (words : List Text) (rule : Correction) :
    Kept [rule] t (t.correct words rule).2 := by
  cases rule with
  | rename source target => exact t.kept_rename source target
  | phrase p => exact t.kept_takePhrase p _

/-! ## Counts that fit -/

namespace Holds

variable {t : Ledger64 Text} {f : Frequency Text}

/-- What was taken out of a table that fits can be added to any key of it. -/
theorem get_add_lt {g : Frequency Text} {n : Nat} (hfits : f.total < bitValues 64)
    (htotal : g.total + n = f.total) (key : Text) : g.get key + n < bitValues 64 := by
  have hle := Ledger.get_le_total key g.toList
  rw [← g.get_eq, ← g.total_eq] at hle
  omega

theorem rename (h : t.Holds f) (hfits : f.total < bitValues 64) (source target : Text) :
    (t.rename source target).1 = (f.rename source target).1
      ∧ (t.rename source target).2.Holds (f.rename source target).2 := by
  obtain ⟨hanswer, hleft⟩ := h.remove source
  have htotal := f.total_remove source
  have hcount := f.fst_remove source
  unfold Ledger64.rename Frequency.rename
  rcases ht : t.remove source with ⟨m, u⟩
  rcases hf : f.remove source with ⟨n, g⟩
  rw [ht, hf] at hanswer hleft
  rw [hf] at htotal hcount
  obtain rfl : m = n := hanswer
  cases m with
  | none => exact ⟨rfl, hleft⟩
  | some n =>
    have hn : n = f.get source := by
      simp only at hcount
      split at hcount
      · cases hcount
      · exact Option.some.inj hcount
    exact ⟨rfl, hleft.add target (hn ▸ get_add_lt hfits htotal target)⟩

theorem takePhrase (h : t.Holds f) (hfits : f.total < bitValues 64) (phrase : List Text)
    (n : Nat) :
    (t.takePhrase phrase n).1 = (f.takePhrase phrase n).1
      ∧ (t.takePhrase phrase n).2.Holds (f.takePhrase phrase n).2 := by
  cases phrase with
  | nil => exact ⟨rfl, h⟩
  | cons first others =>
    obtain ⟨hanswer, hleft⟩ := h.subtract first n
    have htotal := f.total_subtract first n
    rw [← f.fst_subtract first n] at htotal
    simp only [Ledger64.takePhrase, Frequency.takePhrase, hanswer, true_and]
    exact hleft.add _ (get_add_lt hfits htotal _)

/-- **A rule does to a stored view that fits what it does to a view without bound.** -/
theorem correct (h : t.Holds f) (hfits : f.total < bitValues 64) (words : List Text)
    (rule : Correction) :
    (t.correct words rule).1 = (f.correct words rule).1
      ∧ (t.correct words rule).2.Holds (f.correct words rule).2 := by
  cases rule with
  | rename source target => exact h.rename hfits source target
  | phrase p => exact h.takePhrase hfits _ _

end Holds

end Ledger64

/-! ## Two views -/

namespace Views64

/-- What rules keep of both views. -/
theorem kept_foldl (words : List Text) (rules : List Correction) (v : Views64) :
    Ledger64.Kept rules v.wordFrequency
        (rules.foldl (Views64.correct words) v).wordFrequency
      ∧ Ledger64.Kept rules v.filteredWordFrequency
        (rules.foldl (Views64.correct words) v).filteredWordFrequency := by
  induction rules generalizing v with
  | nil => exact ⟨.refl _ _, .refl _ _⟩
  | cons rule rules ih =>
    obtain ⟨hwords, hfiltered⟩ := ih (v.correct words rule)
    exact ⟨(v.wordFrequency.kept_correct words rule).cons hwords,
      (v.filteredWordFrequency.kept_correct words rule).cons hfiltered⟩

/-- Stored views hold the counts of views without bound, and the same rules were applied. -/
structure Holds (v : Views64) (w : Views) : Prop where
  /-- The full view does. -/
  wordFrequency : v.wordFrequency.Holds w.wordFrequency
  /-- The filtered view does. -/
  filteredWordFrequency : v.filteredWordFrequency.Holds w.filteredWordFrequency
  /-- The same rules are listed. -/
  applied_eq : v.applied = w.applied

/-- **All rules do to stored views that fit what they do to views without bound.** -/
theorem Holds.foldl {v : Views64} {w : Views} (h : v.Holds w)
    (hwords : w.wordFrequency.total < bitValues 64)
    (hfiltered : w.filteredWordFrequency.total < bitValues 64) (words : List Text)
    (rules : List Correction) :
    (rules.foldl (Views64.correct words) v).Holds (rules.foldl (Views.correct words) w) := by
  induction rules generalizing v w with
  | nil => exact h
  | cons rule rules ih =>
    obtain ⟨hinWords, hheldWords⟩ := h.wordFrequency.correct hwords words rule
    obtain ⟨hinFiltered, hheldFiltered⟩ := h.filteredWordFrequency.correct hfiltered words rule
    have hstep : (v.correct words rule).Holds (w.correct words rule) := {
      wordFrequency := hheldWords
      filteredWordFrequency := hheldFiltered
      applied_eq := by
        simp only [Views64.correct, Views.correct, hinWords, hinFiltered, h.applied_eq] }
    -- The sums stay as they are, so the views behind the rule fit as well.
    refine ih hstep ?_ ?_
    · rwa [Views.correct, (w.wordFrequency.kept_correct words rule).total_eq]
    · rwa [Views.correct, (w.filteredWordFrequency.kept_correct words rule).total_eq]

end Views64

/-! ## Records -/

/-- Stored word counts are those of a record without bound. -/
structure WordCounts64.Holds (s : WordCounts64) (w : WordCounts) : Prop where
  /-- As many words. -/
  words_eq : s.words = w.words
  /-- As many distinct words. -/
  distinctWords_eq : s.distinctWords = w.distinctWords
  /-- As many stems. -/
  stems_eq : s.stems = w.stems
  /-- As many distinct stems. -/
  distinctStems_eq : s.distinctStems = w.distinctStems
  /-- The same counts of words. -/
  wordFrequency : s.wordFrequency.Holds w.wordFrequency
  /-- The same counts of words that are no stopwords. -/
  filteredWordFrequency : s.filteredWordFrequency.Holds w.filteredWordFrequency
  /-- The same counts of stems. -/
  stemFrequency : s.stemFrequency.Holds w.stemFrequency
  /-- The same counts of stems of words that are no stopwords. -/
  filteredStemFrequency : s.filteredStemFrequency.Holds w.filteredStemFrequency

/-- The tables of word counts. -/
def WordCounts64.tables (w : WordCounts64) : List (Ledger64 Text) :=
  [w.wordFrequency, w.filteredWordFrequency, w.stemFrequency, w.filteredStemFrequency]

namespace Record64

/-- No table of the words has a zero or a key twice. -/
structure WellFormed (s : Record64) : Prop where
  /-- The full view of the words. -/
  wordFrequency : s.words.wordFrequency.entries.WellFormed
  /-- The filtered view of the words. -/
  filteredWordFrequency : s.words.filteredWordFrequency.entries.WellFormed
  /-- The full view of the stems. -/
  stemFrequency : s.words.stemFrequency.entries.WellFormed
  /-- The filtered view of the stems. -/
  filteredStemFrequency : s.words.filteredStemFrequency.entries.WellFormed

/-- Keys never stand twice, so it is zeros alone that spoil a table. -/
theorem wellFormed_iff {s : Record64} :
    s.WellFormed ↔ ∀ t ∈ s.words.tables, ∀ e ∈ t.entries, 0 < e.2 := by
  simp only [WordCounts64.tables, List.forall_mem_cons, List.not_mem_nil, false_imp_iff,
    implies_true, and_true]
  constructor
  · exact fun h => ⟨h.wordFrequency.count_pos, h.filteredWordFrequency.count_pos,
      h.stemFrequency.count_pos, h.filteredStemFrequency.count_pos⟩
  · rintro ⟨hwords, hfiltered, hstems, hfilteredStems⟩
    exact ⟨⟨Ledger64.keys_nodup _, hwords⟩, ⟨Ledger64.keys_nodup _, hfiltered⟩,
      ⟨Ledger64.keys_nodup _, hstems⟩, ⟨Ledger64.keys_nodup _, hfilteredStems⟩⟩

instance (s : Record64) : Decidable s.WellFormed :=
  decidable_of_iff _ wellFormed_iff.symm

/-- The counts of either view of the words add up to a number of 64 bits. -/
structure Fits (s : Record64) : Prop where
  /-- Those of the full view do. -/
  wordFrequency : s.words.wordFrequency.Fits
  /-- Those of the filtered view do. -/
  filteredWordFrequency : s.words.filteredWordFrequency.Fits

/-- A stored record is a record without bound. -/
structure Holds (s : Record64) (r : Record) : Prop where
  /-- It is of the same snapshot. -/
  snapshot_eq : s.snapshot = r.snapshot
  /-- It has the same counts in the markup. -/
  markup_eq : s.markup = r.markup
  /-- It has the same counts in the words. -/
  words : s.words.Holds r.words
  /-- It lists the same corrections. -/
  corrections_eq : s.corrections = r.corrections

theorem Holds.wellFormed {s : Record64} {r : Record} (h : s.Holds r) : s.WellFormed where
  wordFrequency := h.words.wordFrequency.wellFormed
  filteredWordFrequency := h.words.filteredWordFrequency.wellFormed
  stemFrequency := h.words.stemFrequency.wellFormed
  filteredStemFrequency := h.words.filteredStemFrequency.wellFormed

/-- **A stored record that fits is corrected as if it had no bound.** -/
theorem correct_holds {s : Record64} {r : Record} (h : s.Holds r) (hfits : s.Fits)
    (words : List Text) (rules : List Correction) :
    (s.correct words rules).Holds (r.correct words rules) := by
  have hstart : Views64.Holds s.views
      { wordFrequency := r.words.wordFrequency
        filteredWordFrequency := r.words.filteredWordFrequency } :=
    ⟨h.words.wordFrequency, h.words.filteredWordFrequency, rfl⟩
  have hviews := hstart.foldl (h.words.wordFrequency.total_eq ▸ hfits.wordFrequency)
    (h.words.filteredWordFrequency.total_eq ▸ hfits.filteredWordFrequency) words rules
  simp only [Record64.correct, Record.correct, hviews.applied_eq]
  split
  · exact h
  · exact {
      snapshot_eq := h.snapshot_eq
      markup_eq := h.markup_eq
      words := { h.words with
        wordFrequency := hviews.wordFrequency
        filteredWordFrequency := hviews.filteredWordFrequency }
      corrections_eq := by
        simp only [Record64.amended, Record.amended, h.corrections_eq, hviews.applied_eq] }

/-- A filtered view that counts no word more often than the full view fits with it. -/
theorem fits_of_le {s : Record64} (hfits : s.words.wordFrequency.Fits)
    (hle : ∀ key, s.words.filteredWordFrequency.get key ≤ s.words.wordFrequency.get key) :
    s.Fits where
  wordFrequency := hfits
  filteredWordFrequency := Nat.lt_of_le_of_lt (Ledger.total_le_total
    s.words.filteredWordFrequency.keys_nodup s.words.wordFrequency.keys_nodup hle) hfits

/-- Whatever the counts are, rules keep both views and nothing else in the record changes but the
list of corrections. -/
theorem kept_correct (r : Record64) (words : List Text) (rules : List Correction) :
    let s := r.correct words rules
    Ledger64.Kept rules r.words.wordFrequency s.words.wordFrequency
      ∧ Ledger64.Kept rules r.words.filteredWordFrequency s.words.filteredWordFrequency
      ∧ s.snapshot = r.snapshot ∧ s.markup = r.markup
      ∧ s.words = { r.words with
          wordFrequency := s.words.wordFrequency
          filteredWordFrequency := s.words.filteredWordFrequency } := by
  intro s
  have hviews := Views64.kept_foldl words rules r.views
  by_cases hnone : (rules.foldl (Views64.correct words) r.views).applied.isEmpty = true
  · have hs : s = r := if_pos hnone
    rw [hs]
    exact ⟨.refl _ _, .refl _ _, rfl, rfl, rfl⟩
  · have hs : s = r.amended _ := if_neg hnone
    rw [hs]
    exact ⟨hviews.1, hviews.2, rfl, rfl, rfl⟩

end Record64

/-! ## Records of texts -/

/-- **An analysis needs no bound.** The record of a text with a number of words that 64 bits hold is
what the rules make of its counts as they are stored. -/
theorem Analysis.record_holds (a : Analysis) (snapshot : Snapshot) (source : Text)
    (h : (a.words source).length < bitValues 64) {s : Record64}
    (hs : s.Holds (a.uncorrected snapshot source)) :
    (s.correct (a.words source) a.corrections).Holds (a.record snapshot source) := by
  have hfits : s.words.wordFrequency.Fits := by
    have htotal := Frequency.total_count (a.words source)
    rw [Ledger64.Fits, hs.words.wordFrequency.total_eq]
    exact htotal ▸ h
  have hle (key : Text) :
      s.words.filteredWordFrequency.get key ≤ s.words.wordFrequency.get key := by
    rw [hs.words.filteredWordFrequency.get_eq, hs.words.wordFrequency.get_eq]
    exact Frequency.get_filter_le _ _ key
  exact Record64.correct_holds hs (Record64.fits_of_le hfits hle) _ _

end TexCensus
