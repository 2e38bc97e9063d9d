import TexCensus.Proofs.Record.AppliedRules
import TexCensus.Proofs.Record.Counted
import TexCensus.Proofs.Unicode.Fields
import TexCensus.Proofs.Words.Vocabulary

/-!
# Phrases in records

The key of a phrase has blanks between its words and a word has none. So in counted views the key
is new, and one rule for a phrase counts it exactly as often as it occurs
(`Analysis.record_of_phrase`).

Several rules look for phrases in the same words, whatever the rules before them took. What they
give to a key adds up: a phrase that is listed once is never counted more often than it occurs, but
one that is listed `m` times may be counted `m` times as often (`Analysis.get_phrase_le`).
-/

namespace TexCensus

open Unicode (fields IsField)

/-! ## Keys of phrases -/

theorem blank_mem_joinWith (first next : Text) (others : List Text) :
    ' ' ∈ joinWith [' '] (first :: next :: others) := by
  rw [joinWith_cons_cons]
  simp

/-- The key of a phrase is no word. -/
theorem Analysis.count_joinWith (a : Analysis) (source first next : Text) (others : List Text) :
    (a.words source).count (joinWith [' '] (first :: next :: others)) = 0 := by
  rw [List.count_eq_zero]
  intro hword
  have htoken := (WordCounter.canFind_of_mem_words hword).1
  exact htoken.not_mem isWord_blank (blank_mem_joinWith first next others)

namespace Correction

/-- **A rule that is not for a phrase leaves its key alone,** unless it is a rename of that key or
to it. -/
theorem names_joinWith_fields {p first next : Text} {others : List Text} {rule : Correction}
    (hp : fields p = first :: next :: others) (haccepted : rule.fault? = none)
    (hother : rule.words ≠ fields p)
    (hrename : ∀ source target, rule = .rename source target →
      source ≠ joinWith [' '] (fields p) ∧ target ≠ joinWith [' '] (fields p)) :
    rule.names (joinWith [' '] (fields p)) = false := by
  cases rule with
  | rename source target =>
    obtain ⟨hsource, htarget⟩ := hrename source target rfl
    simp [names, move?, hsource.symm, htarget.symm]
  | phrase q =>
    obtain ⟨head, second, rest, hq⟩ := exists_fields_of_accepted haccepted
    have hhead : joinWith [' '] (fields p) ≠ head := by
      -- The first word of the other phrase has no blank.
      have hfield : IsField head := Unicode.isField_of_mem_fields (hq ▸ List.mem_cons_self)
      intro heq
      apply hfield.blank_not_mem
      rw [← heq, hp]
      exact blank_mem_joinWith first next others
    have hkey : joinWith [' '] (fields p) ≠ joinWith [' '] (fields q) := fun heq =>
      hother (Unicode.joinWith_fields_inj.1 heq).symm
    rw [hq] at hkey
    simp [names, move?, hq, phraseKeys?, hhead, hkey]

end Correction

/-! ## One phrase -/

namespace Frequency

variable {f g : Frequency Text} {first key : Text} {n : Nat}

/-- `g` is `f` with `n` occurrences of the first word of a phrase counted as the phrase. -/
structure PhraseSplit (first key : Text) (n : Nat) (f g : Frequency Text) : Prop where
  /-- There are as many to take. -/
  le_get : n ≤ f.get first
  /-- The phrase is new. -/
  fresh : f.contains key = false
  /-- The phrase is counted `n` times. -/
  get_key : g.get key = n
  /-- The first word is counted `n` times less. -/
  get_first : g.get first = f.get first - n
  /-- It is gone if nothing is left. -/
  contains_first : g.contains first = decide (n < f.get first)
  /-- All other counts stay. -/
  get_other : ∀ other, other ≠ first → other ≠ key → g.get other = f.get other
  /-- Their entries stay in the same order. -/
  filter_eq : (g.toList.filter fun e => e.1 ≠ first && e.1 ≠ key)
    = f.toList.filter fun e => e.1 ≠ first && e.1 ≠ key

/-- Counts that are moved to a new key make a phrase. -/
theorem Moved.phraseSplit (h : Moved first key n f g) (hne : first ≠ key) (hnew : f.get key = 0) :
    PhraseSplit first key n f g := by
  have hle := h.le_get
  have hfirst : g.get first = f.get first - n := by
    rw [h.get_eq, if_pos rfl, if_neg hne.symm, Nat.add_zero]
  refine {
    le_get := hle
    fresh := ?_
    get_key := ?_
    get_first := hfirst
    contains_first := ?_
    get_other := ?_
    filter_eq := h.filter_eq (fun k => k ≠ first && k ≠ key) (by simp) (by simp) }
  · rw [← Bool.not_eq_true, contains_iff]
    omega
  · rw [h.get_eq, if_neg hne, if_pos rfl]
    omega
  · rw [Bool.eq_iff_iff, contains_iff, hfirst, decide_eq_true_eq]
    omega
  · intro other hother hkey
    rw [h.get_eq, if_neg hother.symm, if_neg hkey.symm]
    rfl

variable {words : List Text} {p next : Text} {others : List Text}

/-- A phrase moves counts from its first word to its key. -/
theorem correct_phrase_moves (f : Frequency Text) (words : List Text)
    (hp : fields p = first :: next :: others) :
    Moved first (joinWith [' '] (fields p)) (min (countPhrase words (fields p)) (f.get first)) f
      (f.correct words (.phrase p)).2 := by
  have hmove : (Correction.phrase p).move? = some (first, joinWith [' '] (fields p)) := by
    simp only [Correction.move?, hp, Correction.phraseKeys?]
  exact (f.correct_moves words hmove).2

/-- A phrase is counted as often as it occurs if its first word is there as often. -/
theorem phraseSplit_correct (hp : fields p = first :: next :: others)
    (hle : countPhrase words (fields p) ≤ f.get first)
    (hnew : f.get (joinWith [' '] (fields p)) = 0) :
    PhraseSplit first (joinWith [' '] (fields p)) (countPhrase words (fields p)) f
      (f.correct words (.phrase p)).2 := by
  have hmoved := f.correct_phrase_moves words hp
  rw [Nat.min_eq_left hle] at hmoved
  refine hmoved.phraseSplit ?_ hnew
  rw [hp]
  exact (joinWith_ne_first first next others).symm

/-- A phrase changes nothing if its first word is not there. -/
theorem correct_phrase_of_get_eq_zero (hp : fields p = first :: next :: others)
    (hnone : f.get first = 0) : (f.correct words (.phrase p)).2 = f := by
  refine f.correct_of_fst_eq_false words _ ?_
  simp only [correct, hp, fst_takePhrase, hnone]
  simp

end Frequency

namespace Analysis

variable {files : Files} {s : Settings} {a : Analysis} {p first next : Text} {others : List Text}

/-- The key of a phrase is new to counted views. -/
theorem get_key_uncorrected (a : Analysis) (snapshot : Snapshot) (source : Text)
    (hp : fields p = first :: next :: others) :
    let w := (a.uncorrected snapshot source).words
    w.wordFrequency.get (joinWith [' '] (fields p)) = 0
      ∧ w.filteredWordFrequency.get (joinWith [' '] (fields p)) = 0 := by
  intro w
  have hnew := a.count_joinWith source first next others
  rw [get_wordFrequency, get_filteredWordFrequency, hp, hnew, ite_self]
  exact ⟨rfl, rfl⟩

/-- **One phrase is counted as often as it occurs.** Settings whose only rule is a phrase are
accepted without it too. Then the record with the rule has the views of the record without it, in
which the phrase was not counted yet, with as many occurrences of its first word counted as the
phrase as it occurs in the text. There are always as many to take. The filtered view stays as it is
if the first word is a stopword. The rule is listed if and only if the phrase occurs. -/
theorem record_of_phrase (h : ofSettings files s = .ok a) (hs : s.corrections = [.phrase p]) :
    ∃ b first next others, ofSettings files { s with corrections := [] } = .ok b
      ∧ fields p = first :: next :: others ∧ ∀ snapshot source,
        let n := countPhrase (a.words source) (fields p)
        let key := joinWith [' '] (fields p)
        let before := b.record snapshot source
        let after := a.record snapshot source
        b.words source = a.words source
          ∧ Frequency.PhraseSplit first key n before.words.wordFrequency after.words.wordFrequency
          ∧ (b.counter.stopwords.contains first = false → Frequency.PhraseSplit first key n
              before.words.filteredWordFrequency after.words.filteredWordFrequency)
          ∧ (b.counter.stopwords.contains first = true →
              after.words.filteredWordFrequency = before.words.filteredWordFrequency)
          ∧ after.corrections = if 0 < n then [(Correction.phrase p).describe] else [] := by
  have haccepted : (Correction.phrase p).fault? = none :=
    (ofSettings_eq_ok_iff.1 h).1 _ (by rw [hs]; exact List.mem_cons_self)
  obtain ⟨first, next, others, hp⟩ := Correction.exists_fields_of_accepted haccepted
  refine ⟨{ a with corrections := [] }, first, next, others,
    ofSettings_with_corrections h (by simp), hp, ?_⟩
  intro snapshot source n key before after
  have hbefore : before = a.uncorrected snapshot source := rfl
  obtain ⟨hnew, hnewFiltered⟩ := a.get_key_uncorrected snapshot source hp
  obtain ⟨hfull, hfiltered⟩ := views_record h snapshot source
  rw [hs] at hfull hfiltered
  have hle : n ≤ (a.words source).count first := by
    simp only [n, hp]
    exact countPhrase_le_count first (next :: others) (a.words source)
  refine ⟨rfl, ?_, fun hstop => ?_, fun hstop => ?_, ?_⟩
  · rw [hfull]
    refine Frequency.phraseSplit_correct hp ?_ hnew
    rwa [hbefore, get_wordFrequency]
  · rw [hfiltered]
    refine Frequency.phraseSplit_correct hp ?_ hnewFiltered
    rwa [hbefore, get_filteredWordFrequency, if_neg (Bool.eq_false_iff.1 hstop)]
  · rw [hfiltered]
    refine Frequency.correct_phrase_of_get_eq_zero hp ?_
    rw [get_filteredWordFrequency]
    exact if_pos hstop
  · have hafter : after = before.correct (a.words source) [.phrase p] := by
      rw [← hs, ← corrections_of_ofSettings h]
      rfl
    rw [hafter, hbefore]
    exact a.corrections_correct_singleton snapshot source (.phrase p)

/-- Texts that the filter of the settings keeps are the words of the text that joins them. -/
theorem words_joinWith_of_ofSettings (h : ofSettings files s = .ok a) {ws : List Text}
    (hws : ∀ w ∈ ws, IsTokenText w ∧ s.tokenFilter.keeps w = true) :
    a.words (joinWith [' '] ws) = ws := by
  have hfilter := WordCounter.filter_of_ofSettings (ofSettings_eq_ok_iff.1 h).2.1
  exact a.words_joinWith fun w hw => ⟨(hws w hw).1, hfilter ▸ (hws w hw).2⟩

/-- A phrase that overlaps itself and is written with two blanks. -/
theorem record_of_phrase_of_self_overlap :
    let files : Files := { root := .folder [] }
    let s : Settings := { corrections := [.phrase "ha  ha".toList] }
    let source := "ha ha ha".toList
    ∃ a b, ofSettings files s = .ok a ∧ s.corrections = [.phrase "ha  ha".toList]
      ∧ ofSettings files { s with corrections := [] } = .ok b
      ∧ Frequency.PhraseSplit "ha".toList "ha ha".toList 1
          (b.record {} source).words.wordFrequency (a.record {} source).words.wordFrequency
      ∧ (a.record {} source).corrections = ["phrase 'ha  ha'".toList] := by
  intro files s source
  have hphrase : fields "ha  ha".toList = ["ha".toList, "ha".toList] := by decide
  obtain ⟨a, h⟩ := exists_ofSettings_corrections files
    (List.forall_mem_singleton.2 (by decide) : ∀ rule ∈ s.corrections, rule.fault? = none)
  have hsource : source = joinWith [' '] ["ha".toList, "ha".toList, "ha".toList] := by decide
  have hwords : a.words source = ["ha".toList, "ha".toList, "ha".toList] := by
    rw [hsource]
    exact words_joinWith_of_ofSettings h (by decide)
  have hcount : countPhrase (a.words source) (fields "ha  ha".toList) = 1 := by
    rw [hphrase, hwords]
    simp [countPhrase, countPhraseFrom]
  obtain ⟨b, first, next, others, hb, hfields, hrecord⟩ := record_of_phrase h rfl
  obtain ⟨-, hsplit, -, -, hlisted⟩ := hrecord {} source
  rw [hphrase] at hfields
  obtain ⟨rfl, -⟩ := List.cons.inj hfields
  rw [hcount] at hsplit hlisted
  rw [hphrase] at hsplit
  exact ⟨a, b, h, rfl, hb, hsplit, hlisted⟩

end Analysis

/-! ## Many rules -/

namespace Frequency

variable {rules : List Correction} {phrase : List Text} {first next : Text} {others : List Text}

/-- One rule for a phrase gives to its key what is left of its first word, as far as the phrase
occurs. -/
theorem get_correct_phrase (f : Frequency Text) (words : List Text) {rule : Correction}
    (hphrase : phrase = first :: next :: others) (h : rule.words = phrase) :
    let taken := min (countPhrase words phrase) (f.get first)
    (f.correct words rule).2.get (joinWith [' '] phrase) = f.get (joinWith [' '] phrase) + taken
      ∧ (f.correct words rule).2.get first = f.get first - taken := by
  intro taken
  have hne : joinWith [' '] phrase ≠ first := by
    rw [hphrase]
    exact joinWith_ne_first first next others
  cases rule with
  | rename source target =>
    rw [hphrase] at h
    cases h
  | phrase q =>
    have hq : fields q = phrase := h
    have hmoved := f.correct_phrase_moves words (hq.trans hphrase)
    rw [hq] at hmoved
    rw [hmoved.get_eq, if_neg hne.symm, if_pos rfl, hmoved.get_eq, if_pos rfl, if_neg hne]
    exact ⟨rfl, rfl⟩

/-- A rule leaves the counts of keys alone that it does not name. -/
theorem get_correct_of_names_eq_false (f : Frequency Text) (words : List Text)
    {rule : Correction} {key : Text} (h : rule.names key = false) :
    (f.correct words rule).2.get key = f.get key :=
  (f.kept_correct words rule).get_eq key (List.forall_mem_singleton.2 h)

/-- **Each rule for a phrase gives to its key as much as the phrase occurs, at most,** and other
rules give nothing if they do not name the key. -/
theorem get_correctAll_le (f : Frequency Text) (words : List Text)
    (hphrase : phrase = first :: next :: others)
    (hrules : ∀ rule ∈ rules, rule.words = phrase ∨ rule.names (joinWith [' '] phrase) = false) :
    (f.correctAll words rules).get (joinWith [' '] phrase)
      ≤ f.get (joinWith [' '] phrase)
        + rules.countP (·.words = phrase) * countPhrase words phrase := by
  induction rules generalizing f with
  | nil => simp [correctAll]
  | cons rule rules ih =>
    obtain ⟨hrule, hrules⟩ := List.forall_mem_cons.1 hrules
    have hrest := ih (f.correct words rule).2 hrules
    rw [correctAll, List.foldl_cons, ← correctAll, List.countP_cons]
    by_cases hwords : rule.words = phrase
    · have hgiven := (f.get_correct_phrase words hphrase hwords).1
      rw [if_pos (by simpa using hwords), Nat.succ_mul]
      omega
    · have hsame := f.get_correct_of_names_eq_false words (hrule.resolve_left hwords)
      rw [if_neg (by simpa using hwords), Nat.add_zero]
      omega

/-- **What rules for a phrase give to its key** if no other rule names the key or the first word:
each gives as much as the phrase occurs, until nothing is left of the first word. -/
theorem get_correctAll_eq (f : Frequency Text) (words : List Text)
    (hphrase : phrase = first :: next :: others)
    (hrules : ∀ rule ∈ rules, rule.words = phrase
      ∨ rule.names (joinWith [' '] phrase) = false ∧ rule.names first = false) :
    (f.correctAll words rules).get (joinWith [' '] phrase)
      = f.get (joinWith [' '] phrase)
        + min (rules.countP (·.words = phrase) * countPhrase words phrase) (f.get first) := by
  induction rules generalizing f with
  | nil => simp [correctAll]
  | cons rule rules ih =>
    obtain ⟨hrule, hrules⟩ := List.forall_mem_cons.1 hrules
    rw [correctAll, List.foldl_cons, ← correctAll, List.countP_cons, ih _ hrules]
    by_cases hwords : rule.words = phrase
    · -- The rules behind take from what this one left of the first word.
      obtain ⟨hgiven, hleft⟩ := f.get_correct_phrase words hphrase hwords
      rw [if_pos (by simpa using hwords), Nat.succ_mul, hgiven, hleft]
      omega
    · obtain ⟨hkey, hfirst⟩ := hrule.resolve_left hwords
      rw [if_neg (by simpa using hwords), Nat.add_zero,
        f.get_correct_of_names_eq_false words hkey, f.get_correct_of_names_eq_false words hfirst]

end Frequency

namespace Analysis

variable {files : Files} {s : Settings} {a : Analysis} {p : Text}

/-- Among the rules of accepted settings only those for a phrase name its key, if no rename does. -/
theorem words_or_names_of_ofSettings (h : ofSettings files s = .ok a)
    (hp : .phrase p ∈ s.corrections)
    (hrename : ∀ source target, .rename source target ∈ s.corrections →
      source ≠ joinWith [' '] (fields p) ∧ target ≠ joinWith [' '] (fields p)) :
    ∀ rule ∈ s.corrections,
      rule.words = fields p ∨ rule.names (joinWith [' '] (fields p)) = false := by
  intro rule hrule
  have haccepted := (ofSettings_eq_ok_iff.1 h).1
  obtain ⟨first, next, others, hfields⟩ :=
    Correction.exists_fields_of_accepted (haccepted _ hp)
  refine or_iff_not_imp_left.2 fun hother => ?_
  refine Correction.names_joinWith_fields hfields (haccepted rule hrule) hother ?_
  rintro source target rfl
  exact hrename source target hrule

/-- **How often a phrase can be counted.** Take a phrase among the rules of accepted settings whose
key is not named by a rename. If it is listed once, neither view of a record counts it more often
than it occurs in the text. If it is listed `m` times, neither view counts it more than `m` times
as often; and as often it is counted indeed, as far as its first word goes, if no other rule names
that word. -/
theorem get_phrase_le (h : ofSettings files s = .ok a) (hp : .phrase p ∈ s.corrections)
    (hrename : ∀ source target, .rename source target ∈ s.corrections →
      source ≠ joinWith [' '] (fields p) ∧ target ≠ joinWith [' '] (fields p))
    (snapshot : Snapshot) (source : Text) :
    let key := joinWith [' '] (fields p)
    let n := countPhrase (a.words source) (fields p)
    let m := s.corrections.countP (·.words = fields p)
    let w := (a.record snapshot source).words
    (m = 1 → w.wordFrequency.get key ≤ n ∧ w.filteredWordFrequency.get key ≤ n)
      ∧ (w.wordFrequency.get key ≤ m * n ∧ w.filteredWordFrequency.get key ≤ m * n)
      ∧ ∀ first ∈ (fields p).head?,
        (∀ rule ∈ s.corrections, rule.words = fields p ∨ rule.names first = false) →
          w.wordFrequency.get key = min (m * n) ((a.words source).count first)
            ∧ w.filteredWordFrequency.get key = min (m * n)
              (if a.counter.stopwords.contains first then 0 else (a.words source).count first) := by
  intro key n m w
  obtain ⟨first, next, others, hfields⟩ :=
    Correction.exists_fields_of_accepted ((ofSettings_eq_ok_iff.1 h).1 _ hp)
  have hrules := words_or_names_of_ofSettings h hp hrename
  -- The views start without the phrase.
  obtain ⟨hnew, hnewFiltered⟩ := a.get_key_uncorrected snapshot source hfields
  obtain ⟨hfull, hfiltered⟩ := views_record h snapshot source
  have hle : w.wordFrequency.get key ≤ m * n ∧ w.filteredWordFrequency.get key ≤ m * n := by
    have hview (f : Frequency Text) (hf : f.get key = 0) :
        (f.correctAll (a.words source) s.corrections).get key ≤ m * n := by
      have hadded := f.get_correctAll_le (a.words source) hfields hrules
      rwa [hf, Nat.zero_add] at hadded
    rw [hfull, hfiltered]
    exact ⟨hview _ hnew, hview _ hnewFiltered⟩
  refine ⟨fun honce => ?_, hle, ?_⟩
  · rwa [honce, Nat.one_mul] at hle
  · intro head hhead hothers
    rw [hfields, List.head?_cons, Option.mem_some_iff] at hhead
    subst hhead
    have hview (f : Frequency Text) (hf : f.get key = 0) :
        (f.correctAll (a.words source) s.corrections).get key = min (m * n) (f.get first) := by
      have hadded := f.get_correctAll_eq (a.words source) hfields fun rule hrule =>
        or_and_left.2 ⟨hrules rule hrule, hothers rule hrule⟩
      rwa [hf, Nat.zero_add] at hadded
    rw [hfull, hfiltered, hview _ hnew, hview _ hnewFiltered, get_wordFrequency,
      get_filteredWordFrequency]
    exact ⟨rfl, rfl⟩

/-- A rename gives to the first word of a phrase before the turn of the phrase comes. -/
theorem get_phrase_le_behind_rename :
    let files : Files := { root := .folder [] }
    let p := "aa bb".toList
    let s : Settings := { corrections := [.rename "cc".toList "aa".toList, .phrase p] }
    let source := "aa bb cc cc".toList
    ∃ a, ofSettings files s = .ok a ∧ .phrase p ∈ s.corrections
      ∧ (∀ source target, .rename source target ∈ s.corrections →
        source ≠ joinWith [' '] (fields p) ∧ target ≠ joinWith [' '] (fields p))
      ∧ s.corrections.countP (·.words = fields p) = 1
      ∧ (a.record {} source).words.wordFrequency.get (joinWith [' '] (fields p))
          ≤ countPhrase (a.words source) (fields p) := by
  intro files p s source
  have hkey : joinWith [' '] (fields p) = p := by decide
  have haccepted : ∀ rule ∈ s.corrections, rule.fault? = none := by decide
  have hp : .phrase p ∈ s.corrections := by decide
  have honce : s.corrections.countP (·.words = fields p) = 1 := by decide
  have hrename : ∀ source target, .rename source target ∈ s.corrections →
      source ≠ joinWith [' '] (fields p) ∧ target ≠ joinWith [' '] (fields p) := by
    rw [hkey]
    simp [s, p]
  obtain ⟨a, h⟩ := exists_ofSettings_corrections files haccepted
  exact ⟨a, h, hp, hrename, honce, ((get_phrase_le h hp hrename {} source).1 honce).1⟩

/-- A phrase that occurs once and is listed twice is counted twice. -/
theorem get_phrase_of_repeated_rule :
    let files : Files := { root := .folder [] }
    let p := "aa bb".toList
    let s : Settings := { corrections := [.phrase p, .phrase p] }
    let source := "aa bb aa".toList
    ∃ a, ofSettings files s = .ok a ∧ a.words source = ["aa", "bb", "aa"].map String.toList
      ∧ countPhrase (a.words source) (fields p) = 1
      ∧ (a.record {} source).words.wordFrequency.get (joinWith [' '] (fields p)) = 2 := by
  intro files p s source
  have hphrase : fields p = ["aa".toList, "bb".toList] := by decide
  have haccepted : ∀ rule ∈ s.corrections, rule.fault? = none := by decide
  obtain ⟨a, h⟩ := exists_ofSettings_corrections files haccepted
  have hsource : source = joinWith [' '] (["aa", "bb", "aa"].map String.toList) := by decide
  have hwords : a.words source = ["aa", "bb", "aa"].map String.toList := by
    rw [hsource]
    exact words_joinWith_of_ofSettings h (by decide)
  have hcount : countPhrase (a.words source) (fields p) = 1 := by
    rw [hwords, hphrase]
    simp [countPhrase, countPhraseFrom]
  have hrules : ∀ rule ∈ s.corrections, rule.words = fields p
      ∨ rule.names (joinWith [' '] (fields p)) = false ∧ rule.names "aa".toList = false := by
    simp [s, Correction.words]
  have hadded := (a.uncorrected {} source).words.wordFrequency.get_correctAll_eq (a.words source)
    hphrase hrules
  refine ⟨a, h, hwords, hcount, ?_⟩
  have htwice : s.corrections.countP (·.words = fields p) = 2 := by decide
  rw [(views_record h {} source).1, hadded, hcount, htwice, get_wordFrequency, get_wordFrequency,
    hwords, hphrase]
  decide

end Analysis

end TexCensus
