import TexCensus.Proofs.Frequency.Count
import TexCensus.Record.Corrections

/-!
# What corrections keep

A rule moves a share of the count of one key to another key (`Frequency.correct_moves`): a rename
moves all of it, a phrase as much as it occurs. The two views of the words are edited one by one, but
the share grows with the count and so does what is left, so a view that counts nothing more often
than another still does not after any rule.

* A rule that finds nothing to move leaves the view alone (`Frequency.correct_of_fst_eq_false`), so a
  record is corrected view by view (`Record.correct_eq`), whether or not a rule changes it.
* Sums, the entries of all other keys and their order survive every list of rules, and so does the
  order between the two views (`Record.correct_keeps`).
-/

namespace TexCensus

/-! ## The keys of a rule -/

namespace Correction

/-- The first word of a phrase and the phrase as a whole. -/
def phraseKeys? : List Text → Option (Text × Text)
  | [] => none
  | first :: others => some (first, joinWith [' '] (first :: others))

/-- The key that a rule takes from and the key that it gives to: the two keys of a rename, the first
word of a phrase and the phrase as a whole. A phrase without words has neither. -/
def move? : Correction → Option (Text × Text)
  | rename source target => some (source, target)
  | phrase p => phraseKeys? (Unicode.fields p)

/-- How much of a count a rule moves, in a text with the given words. -/
def share (words : List Text) : Correction → Nat → Nat
  | rename _ _, n => n
  | phrase p, n => min (countPhrase words (Unicode.fields p)) n

/-- Whether a rule takes from a key or gives to it. -/
def names (rule : Correction) (key : Text) : Bool :=
  rule.move?.any fun (source, target) => key = source || key = target

theorem phraseKeys?_eq_some {phrase : List Text} {source target : Text}
    (h : phraseKeys? phrase = some (source, target)) :
    ∃ others, phrase = source :: others ∧ joinWith [' '] (source :: others) = target := by
  cases phrase with
  | nil => cases h
  | cons first others =>
    obtain ⟨rfl, rfl⟩ : first = source ∧ joinWith [' '] (first :: others) = target := by
      simpa [phraseKeys?] using h
    exact ⟨others, rfl, rfl⟩

theorem share_mono (words : List Text) (rule : Correction) {m n : Nat} (h : m ≤ n) :
    rule.share words m ≤ rule.share words n := by
  cases rule with
  | rename source target => exact h
  | phrase p => simp only [share]; omega

/-- What a rule leaves of a count grows with the count. -/
theorem sub_share_mono (words : List Text) (rule : Correction) {m n : Nat} (h : m ≤ n) :
    m - rule.share words m ≤ n - rule.share words n := by
  cases rule with
  | rename source target => simp [share]
  | phrase p => simp only [share]; omega

end Correction

/-! ## One rule on one view -/

namespace Frequency

/-- `g` is `f` with `n` occurrences of `source` moved to `target`. -/
structure Moved (source target : Text) (n : Nat) (f g : Frequency Text) : Prop where
  /-- No more is moved than there is. -/
  le_get : n ≤ f.get source
  /-- The count of every key. -/
  get_eq : ∀ key : Text,
    g.get key = f.get key - (if source = key then n else 0) + if target = key then n else 0
  /-- The sum stays the same. -/
  total_eq : g.total = f.total
  /-- Entries of other keys stay as they are, in the same order. -/
  filter_eq : ∀ p : Text → Bool, p source = false → p target = false →
    (g.toList.filter fun e => p e.1) = f.toList.filter fun e => p e.1

theorem toList_rename (f : Frequency Text) (source target : Text) :
    (f.rename source target).2.toList
      = Ledger.add target (f.get source) (Ledger.erase source f.toList) := by
  have hfst := f.fst_remove source
  have hsnd := f.toList_remove source
  unfold rename
  split
  · next n g h =>
    rw [h] at hfst hsnd
    have hn : n = f.get source := by
      simp only at hfst
      split at hfst
      · cases hfst
      · exact Option.some.inj hfst
    rw [toList_add, hsnd, hn]
  · next g h =>
    rw [h] at hfst hsnd
    have hn : f.get source = 0 := by
      simp only at hfst
      split at hfst
      · assumption
      · cases hfst
    rw [hn, ← hsnd, Ledger.add, if_pos rfl]

theorem fst_rename (f : Frequency Text) (source target : Text) :
    (f.rename source target).1 = decide (0 < f.get source) := by
  have hfst := f.fst_remove source
  unfold rename
  split
  · next n g h =>
    rw [h] at hfst
    by_cases hz : f.get source = 0
    · rw [if_pos hz] at hfst; cases hfst
    · simp; omega
  · next g h =>
    rw [h] at hfst
    by_cases hz : f.get source = 0
    · simp [hz]
    · rw [if_neg hz] at hfst; cases hfst

theorem rename_moved (f : Frequency Text) (source target : Text) :
    Moved source target (f.get source) f (f.rename source target).2 where
  le_get := Nat.le_refl _
  get_eq := by
    intro key
    rw [Frequency.get_eq, toList_rename, Ledger.get_add,
      Ledger.get_erase source key f.wellFormed.keys_nodup, ← Frequency.get_eq]
    by_cases h : source = key
    · simp [h]
    · simp [h]
  total_eq := by
    have := Ledger.total_erase source f.toList
    rw [← Frequency.get_eq] at this
    rw [Frequency.total_eq, Frequency.total_eq, toList_rename, Ledger.total_add, this]
  filter_eq := by
    intro p hs ht
    rw [toList_rename, Ledger.filter_add ht, Ledger.filter_erase hs]

theorem toList_takePhrase (f : Frequency Text) (first : Text) (others : List Text) (n : Nat) :
    (f.takePhrase (first :: others) n).2.toList
      = Ledger.add (joinWith [' '] (first :: others)) (min n (f.get first))
          (Ledger.take first n f.toList) := by
  simp only [takePhrase, toList_add, fst_subtract, toList_subtract]

theorem fst_takePhrase (f : Frequency Text) (first : Text) (others : List Text) (n : Nat) :
    (f.takePhrase (first :: others) n).1 = decide (0 < min n (f.get first)) := by
  simp only [takePhrase, fst_subtract]

theorem takePhrase_moved (f : Frequency Text) (first : Text) (others : List Text) (n : Nat) :
    Moved first (joinWith [' '] (first :: others)) (min n (f.get first)) f
      (f.takePhrase (first :: others) n).2 where
  le_get := Nat.min_le_right _ _
  get_eq := by
    intro key
    rw [Frequency.get_eq, toList_takePhrase, Ledger.get_add,
      Ledger.get_take first key n f.wellFormed.keys_nodup, ← Frequency.get_eq]
    by_cases h : first = key
    · simp only [h, if_true]; omega
    · simp [h]
  total_eq := by
    have := Ledger.total_take first n f.toList
    rw [← Frequency.get_eq] at this
    rw [Frequency.total_eq, Frequency.total_eq, toList_takePhrase, Ledger.total_add, this]
  filter_eq := by
    intro p hs ht
    rw [toList_takePhrase, Ledger.filter_add ht, Ledger.filter_take hs]

/-- **A rule moves its share of the count of one key to another, and says whether that is
anything.** -/
theorem correct_moves (f : Frequency Text) (words : List Text) {rule : Correction}
    {source target : Text} (h : rule.move? = some (source, target)) :
    (f.correct words rule).1 = decide (0 < rule.share words (f.get source))
      ∧ Moved source target (rule.share words (f.get source)) f (f.correct words rule).2 := by
  cases rule with
  | rename s t =>
    obtain ⟨rfl, rfl⟩ : s = source ∧ t = target := by simpa [Correction.move?] using h
    exact ⟨f.fst_rename s t, f.rename_moved s t⟩
  | phrase p =>
    obtain ⟨others, hp, rfl⟩ := Correction.phraseKeys?_eq_some h
    simp only [correct, Correction.share, hp]
    exact ⟨f.fst_takePhrase source others _, f.takePhrase_moved source others _⟩

/-- A rule without keys does nothing. -/
theorem correct_of_move?_eq_none (f : Frequency Text) (words : List Text) {rule : Correction}
    (h : rule.move? = none) : f.correct words rule = (false, f) := by
  cases rule with
  | rename s t => cases h
  | phrase p =>
    rw [Correction.move?] at h
    cases hp : Unicode.fields p with
    | nil => simp only [correct, hp, takePhrase]
    | cons first others => rw [hp] at h; cases h

/-- **A rule that says it changed nothing left the view as it was.** -/
theorem correct_of_fst_eq_false (f : Frequency Text) (words : List Text) (rule : Correction)
    (h : (f.correct words rule).1 = false) : (f.correct words rule).2 = f := by
  cases rule with
  | rename s t =>
    rw [correct, fst_rename, decide_eq_false_iff_not, Nat.not_lt, Nat.le_zero] at h
    apply ext
    rw [correct, toList_rename, h, Ledger.add, if_pos rfl,
      Ledger.erase_of_not_mem (f.not_mem_keys h)]
  | phrase p =>
    simp only [correct] at h ⊢
    generalize countPhrase words (Unicode.fields p) = n at h ⊢
    cases hp : Unicode.fields p with
    | nil => rfl
    | cons first others =>
      rw [hp, fst_takePhrase, decide_eq_false_iff_not, Nat.not_lt, Nat.le_zero] at h
      apply ext
      rw [toList_takePhrase, h, Ledger.add, if_pos rfl]
      rcases Nat.min_eq_zero_iff.1 h with rfl | hg
      · exact Ledger.take_zero first f.wellFormed.count_pos
      · exact Ledger.take_of_not_mem (f.not_mem_keys hg)

/-! ## All rules on one view -/

/-- A view after rules in order. -/
def correctAll (words : List Text) (rules : List Correction) (f : Frequency Text) :
    Frequency Text :=
  rules.foldl (fun f rule => (f.correct words rule).2) f

/-- What rules keep of a view. -/
structure Kept (rules : List Correction) (f g : Frequency Text) : Prop where
  /-- No key stands twice and no count is zero. -/
  wellFormed : Ledger.WellFormed g.toList
  /-- The sum stays the same. -/
  total_eq : g.total = f.total
  /-- A key that no rule names keeps its count. -/
  get_eq : ∀ key : Text, (∀ rule ∈ rules, rule.names key = false) → g.get key = f.get key
  /-- The entries of such keys stay as they are, in the same order. -/
  filter_eq : ∀ p : Text → Bool,
    (∀ rule ∈ rules, ∀ key : Text, rule.names key = true → p key = false) →
    (g.toList.filter fun e => p e.1) = f.toList.filter fun e => p e.1

theorem Kept.refl (f : Frequency Text) : Kept [] f f where
  wellFormed := f.wellFormed
  total_eq := rfl
  get_eq := fun _ _ => rfl
  filter_eq := fun _ _ => rfl

theorem Kept.cons {rule : Correction} {rules : List Correction} {f g h : Frequency Text}
    (hfg : Kept [rule] f g) (hgh : Kept rules g h) : Kept (rule :: rules) f h where
  wellFormed := hgh.wellFormed
  total_eq := hgh.total_eq.trans hfg.total_eq
  get_eq := by
    intro key hkey
    rw [hgh.get_eq key fun rule' hr => hkey rule' (by simp [hr]),
      hfg.get_eq key fun rule' hr => hkey rule' (by simp_all)]
  filter_eq := by
    intro p hp
    rw [hgh.filter_eq p fun rule' hr => hp rule' (by simp [hr]),
      hfg.filter_eq p fun rule' hr => hp rule' (by simp_all)]

/-- What one rule keeps of a view. -/
theorem kept_correct (f : Frequency Text) (words : List Text) (rule : Correction) :
    Kept [rule] f (f.correct words rule).2 := by
  cases hm : rule.move? with
  | none =>
    rw [f.correct_of_move?_eq_none words hm]
    exact ⟨f.wellFormed, rfl, fun _ _ => rfl, fun _ _ => rfl⟩
  | some keys =>
    obtain ⟨source, target⟩ := keys
    obtain ⟨-, hmoved⟩ := f.correct_moves words hm
    have hnames (key : Text) : rule.names key = (key = source || key = target) := by
      simp [Correction.names, hm]
    refine ⟨Frequency.wellFormed _, hmoved.total_eq, ?_, ?_⟩
    · intro key hkey
      have hk := hkey rule (by simp)
      rw [hnames, Bool.or_eq_false_iff, decide_eq_false_iff_not, decide_eq_false_iff_not] at hk
      rw [hmoved.get_eq, if_neg (Ne.symm hk.1), if_neg (Ne.symm hk.2)]
      rfl
    · intro p hp
      exact hmoved.filter_eq p (hp rule (by simp) source (by simp [hnames]))
        (hp rule (by simp) target (by simp [hnames]))

/-- **What any list of rules keeps of a view.** -/
theorem kept_correctAll (words : List Text) (rules : List Correction) (f : Frequency Text) :
    Kept rules f (f.correctAll words rules) := by
  induction rules generalizing f with
  | nil => exact .refl f
  | cons rule rules ih => exact (f.kept_correct words rule).cons (ih _)

/-! ## Two views -/

/-- **A rule keeps the order between two views.** -/
theorem correct_le {f g : Frequency Text} (h : ∀ key, f.get key ≤ g.get key) (words : List Text)
    (rule : Correction) (key : Text) :
    (f.correct words rule).2.get key ≤ (g.correct words rule).2.get key := by
  cases hm : rule.move? with
  | none =>
    rw [f.correct_of_move?_eq_none words hm, g.correct_of_move?_eq_none words hm]
    exact h key
  | some keys =>
    obtain ⟨source, target⟩ := keys
    obtain ⟨-, hf⟩ := f.correct_moves words hm
    obtain ⟨-, hg⟩ := g.correct_moves words hm
    have hmoved := rule.share_mono words (h source)
    have hleft := rule.sub_share_mono words (h source)
    have hkey := h key
    rw [hf.get_eq, hg.get_eq]
    by_cases hs : source = key
    · subst hs
      simp only [if_true]
      split <;> omega
    · simp only [hs, if_false]
      split <;> omega

theorem correctAll_le (words : List Text) (rules : List Correction) {f g : Frequency Text}
    (h : ∀ key, f.get key ≤ g.get key) (key : Text) :
    (f.correctAll words rules).get key ≤ (g.correctAll words rules).get key := by
  induction rules generalizing f g with
  | nil => exact h key
  | cons rule rules ih => exact ih fun key => correct_le h words rule key

end Frequency

/-! ## Records -/

namespace Record

/-- The rules that say they changed one of two views, each at its turn. -/
def effective (words : List Text) : List Correction → Frequency Text → Frequency Text →
    List Correction
  | [], _, _ => []
  | rule :: rules, f, g =>
    let others := effective words rules (f.correct words rule).2 (g.correct words rule).2
    if (f.correct words rule).1 || (g.correct words rule).1 then rule :: others else others

/-- Both views are corrected by themselves, and the rules that changed one of them are listed. -/
theorem foldl_correct_eq (words : List Text) (rules : List Correction) (v : Views) :
    rules.foldl (Views.correct words) v = {
      wordFrequency := v.wordFrequency.correctAll words rules
      filteredWordFrequency := v.filteredWordFrequency.correctAll words rules
      applied := v.applied ++ (effective words rules v.wordFrequency
        v.filteredWordFrequency).map Correction.describe } := by
  induction rules generalizing v with
  | nil => simp [effective, Frequency.correctAll]
  | cons rule rules ih =>
    rw [List.foldl_cons, ih]
    simp only [effective, Views.correct, Frequency.correctAll, List.foldl_cons]
    split <;> simp

/-- **Views that no rule says it changed are as they were.** -/
theorem correctAll_of_effective_eq_nil (words : List Text) (rules : List Correction)
    {f g : Frequency Text} (h : effective words rules f g = []) :
    f.correctAll words rules = f ∧ g.correctAll words rules = g := by
  induction rules with
  | nil => exact ⟨rfl, rfl⟩
  | cons rule rules ih =>
    simp only [effective] at h
    split at h
    · cases h
    · next hnone =>
      rw [Bool.not_eq_true, Bool.or_eq_false_iff] at hnone
      rw [f.correct_of_fst_eq_false words rule hnone.1,
        g.correct_of_fst_eq_false words rule hnone.2] at h
      simp only [Frequency.correctAll, List.foldl_cons]
      rw [f.correct_of_fst_eq_false words rule hnone.1,
        g.correct_of_fst_eq_false words rule hnone.2]
      exact ih h

/-- **A record is corrected view by view,** and the rules that changed a view are listed behind
those of the record. -/
theorem correct_eq (r : Record) (words : List Text) (rules : List Correction) :
    r.correct words rules = { r with
      words := { r.words with
        wordFrequency := r.words.wordFrequency.correctAll words rules
        filteredWordFrequency := r.words.filteredWordFrequency.correctAll words rules }
      corrections := r.corrections ++ (effective words rules r.words.wordFrequency
        r.words.filteredWordFrequency).map Correction.describe } := by
  unfold correct
  rw [foldl_correct_eq]
  simp only [List.nil_append, List.isEmpty_iff, List.map_eq_nil_iff]
  split
  · next h =>
    obtain ⟨hwords, hfiltered⟩ := correctAll_of_effective_eq_nil words rules h
    rw [h, hwords, hfiltered, List.map_nil, List.append_nil]
  · rfl

end Record

end TexCensus
