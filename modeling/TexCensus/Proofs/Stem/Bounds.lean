import TexCensus.Stem.Removal
import Mathlib.Data.List.Infix

/-!
# Bounds on stems

A stem has no more characters than its word and at least two of them, if the word has as many
(`Stem.Removal.stem_within_bounds`).

The lower bound holds rule by rule (`Rule.KeepsTwo`). The upper bound does not: one rule puts two
letters in place of one, and its result ends in `-ão`. Every later rule that applies to such a word
takes more off than it puts back, and the last vowel comes off if nothing else does
(`length_dropEnding_lt`).
-/

namespace TexCensus.Stem

theorem stripSuffix?_eq_some_iff {suffix word stem : Text} :
    stripSuffix? suffix word = some stem ↔ word = stem ++ suffix := by
  show (if word.drop (word.length - suffix.length) = suffix then
    some (word.take (word.length - suffix.length)) else none) = some stem ↔ _
  constructor
  · intro h
    obtain ⟨hdrop, hstem⟩ := Option.ite_none_right_eq_some.1 h
    have hsplit := List.take_append_drop (word.length - suffix.length) word
    rw [hdrop, Option.some.inj hstem] at hsplit
    exact hsplit.symm
  · rintro rfl
    simp

namespace Removal

variable {r : Rule} {rules : List Rule} {word out : Text}

/-! ## One rule -/

theorem Rule.result?_eq_some_iff : r.result? word = some out ↔
    ∃ stem, word = stem ++ r.suffix ∧ out = stem ++ r.replacement
      ∧ r.minStem ≤ stem.length ∧ word ∉ r.exceptions := by
  unfold Rule.result?
  constructor
  · intro h
    obtain ⟨stem, hstem, h⟩ := Option.bind_eq_some_iff.1 h
    obtain ⟨hcond, h⟩ := Option.ite_none_right_eq_some.1 h
    rw [Bool.and_eq_true, decide_eq_true_iff] at hcond
    refine ⟨stem, stripSuffix?_eq_some_iff.1 hstem, (Option.some.inj h).symm, hcond.1, ?_⟩
    simpa using hcond.2
  · rintro ⟨stem, hword, rfl, hmin, hexcept⟩
    rw [stripSuffix?_eq_some_iff.2 hword]
    simp [hmin, hexcept]

/-- Whether a rule leaves two characters of any word, and two characters as they are. -/
structure Rule.KeepsTwo (r : Rule) : Prop where
  /-- Two characters are left. -/
  two_le : 2 ≤ r.minStem + r.replacement.length
  /-- A word of two characters is too short. -/
  three_le : 3 ≤ r.minStem + r.suffix.length

instance (r : Rule) : Decidable r.KeepsTwo :=
  decidable_of_iff (2 ≤ r.minStem + r.replacement.length ∧ 3 ≤ r.minStem + r.suffix.length)
    ⟨fun h => ⟨h.1, h.2⟩, fun h => ⟨h.two_le, h.three_le⟩⟩

/-- Whether a rule can apply to words with an ending. -/
def Rule.Meets (r : Rule) (ending : Text) : Prop :=
  r.suffix <:+ ending ∨ ending <:+ r.suffix

instance (r : Rule) (ending : Text) : Decidable (r.Meets ending) :=
  inferInstanceAs (Decidable (_ ∨ _))

theorem Rule.two_le_of_result? (hr : r.KeepsTwo) (h : r.result? word = some out) :
    2 ≤ out.length ∧ 3 ≤ word.length := by
  obtain ⟨stem, rfl, rfl, hmin, -⟩ := Rule.result?_eq_some_iff.1 h
  have htwo := hr.two_le
  have hthree := hr.three_le
  rw [List.length_append, List.length_append]
  omega

theorem Rule.length_le_of_result? (hr : r.replacement.length ≤ r.suffix.length)
    (h : r.result? word = some out) : out.length ≤ word.length := by
  obtain ⟨stem, rfl, rfl, -, -⟩ := Rule.result?_eq_some_iff.1 h
  rw [List.length_append, List.length_append]
  omega

theorem Rule.length_lt_of_result? (hr : r.replacement.length < r.suffix.length)
    (h : r.result? word = some out) : out.length < word.length := by
  obtain ⟨stem, rfl, rfl, -, -⟩ := Rule.result?_eq_some_iff.1 h
  rw [List.length_append, List.length_append]
  omega

theorem Rule.meets_of_result? {ending : Text} (hword : ending <:+ word)
    (h : r.result? word = some out) : r.Meets ending := by
  obtain ⟨stem, rfl, -⟩ := Rule.result?_eq_some_iff.1 h
  exact List.suffix_or_suffix_of_suffix (List.suffix_append _ _) hword

/-! ## The table -/

/-- The steps behind the feminine endings. -/
def lateSteps : List (List Rule) :=
  [augmentative, adverb, noun, verb, vowel]

/-- The rules of the steps behind the feminine endings. -/
def lateRules : List Rule :=
  lateSteps.flatten

theorem subset_lateRules (h : rules ∈ lateSteps) : rules ⊆ lateRules := fun _ hr =>
  List.mem_flatten.2 ⟨rules, h, hr⟩

/-- The ending of augmentatives, which one rule for feminine endings makes longer words with. -/
def augmentativeEnding : Text :=
  "ão".toList

theorem plural_bounded : ∀ r ∈ plural, r.KeepsTwo ∧ r.replacement.length ≤ r.suffix.length := by
  decide +kernel

/-- A feminine ending of one letter may give way to the augmentative ending. -/
theorem feminine_bounded : ∀ r ∈ feminine, r.KeepsTwo
    ∧ (r.replacement.length ≤ r.suffix.length
      ∨ r.suffix.length = 1 ∧ 2 ≤ r.minStem ∧ r.replacement = augmentativeEnding) := by
  decide +kernel

/-- What can apply to a word in `-ão` behind the feminine endings makes it shorter. -/
theorem lateRules_bounded : ∀ r ∈ lateRules, r.KeepsTwo
    ∧ r.replacement.length ≤ r.suffix.length
    ∧ (r.Meets augmentativeEnding → r.replacement.length < r.suffix.length) := by
  decide +kernel

/-! ## Steps -/

/-- Whether at most one rule of some leads from a word to another one. -/
def Leads (rules : List Rule) (word out : Text) : Prop :=
  out = word ∨ ∃ r ∈ rules, r.result? word = some out

theorem step?_eq_some (h : step? rules word = some out) :
    ∃ r ∈ rules, r.result? word = some out :=
  List.exists_of_findSome?_eq_some h

theorem leads_step (rules : List Rule) (word : Text) : Leads rules word (step rules word) := by
  cases h : step? rules word with
  | none => exact .inl (by rw [step, h]; rfl)
  | some out =>
    obtain ⟨r, hr, hresult⟩ := step?_eq_some h
    exact .inr ⟨r, hr, by rw [step, h]; exact hresult⟩

/-- A step that is taken under a condition. -/
theorem leads_ite_step (b : Bool) (rules : List Rule) (word : Text) :
    Leads rules word (if b then step rules word else word) := by
  cases b with
  | true => exact leads_step rules word
  | false => exact .inl rfl

theorem Leads.mono {rules' : List Rule} (h : Leads rules word out) (hrules : rules ⊆ rules') :
    Leads rules' word out :=
  h.imp_right fun ⟨r, hr, hresult⟩ => ⟨r, hrules hr, hresult⟩

/-- The last three steps use one rule, or there was no vowel to come off. -/
theorem dropEnding_cases (word : Text) :
    (∃ r ∈ lateRules, r.result? word = some (dropEnding word))
      ∨ dropEnding word = word ∧ step? vowel word = none := by
  have hlate {rules : List Rule} (hrules : rules ∈ lateSteps) {out : Text}
      (h : step? rules word = some out) : ∃ r ∈ lateRules, r.result? word = some out := by
    obtain ⟨r, hr, hresult⟩ := step?_eq_some h
    exact ⟨r, subset_lateRules hrules hr, hresult⟩
  unfold dropEnding
  cases hnoun : step? noun word with
  | some out => exact .inl (hlate (by simp [lateSteps]) hnoun)
  | none =>
    cases hverb : step? verb word with
    | some out => exact .inl (hlate (by simp [lateSteps]) hverb)
    | none =>
      cases hvowel : step? vowel word with
      | some out => exact .inl (by simpa [step, hvowel] using hlate (by simp [lateSteps]) hvowel)
      | none => exact .inr ⟨by simp [step, hvowel], rfl⟩

theorem leads_dropEnding (word : Text) : Leads lateRules word (dropEnding word) :=
  (dropEnding_cases word).elim .inr fun h => .inl h.1

/-- **A stem is reached by five steps of at most one rule each.** -/
theorem exists_leads_stem (word : Text) :
    ∃ singular masculine plain adjective, Leads plural word singular
      ∧ Leads feminine singular masculine ∧ Leads lateRules masculine plain
      ∧ Leads lateRules plain adjective ∧ stem word = dropEnding adjective :=
  ⟨_, _, _, _, leads_ite_step _ plural word, leads_ite_step _ feminine _,
    (leads_step augmentative _).mono (subset_lateRules (by simp [lateSteps])),
    (leads_step adverb _).mono (subset_lateRules (by simp [lateSteps])), rfl⟩

/-! ## What steps keep -/

/-- Whether a word keeps two of its characters, and all of them if it has no more. -/
structure KeepsTwo (word out : Text) : Prop where
  /-- Two characters are left if there are as many. -/
  min_le : min 2 word.length ≤ out.length
  /-- A word of two characters stays as it is. -/
  eq_of_le : word.length ≤ 2 → out = word

theorem KeepsTwo.trans {a b c : Text} (hab : KeepsTwo a b) (hbc : KeepsTwo b c) : KeepsTwo a c where
  min_le := by
    have hb := hab.min_le
    have hc := hbc.min_le
    omega
  eq_of_le ha := by
    obtain rfl := hab.eq_of_le ha
    exact hbc.eq_of_le ha

theorem Leads.keepsTwo (h : Leads rules word out) (hrules : ∀ r ∈ rules, r.KeepsTwo) :
    KeepsTwo word out := by
  rcases h with rfl | ⟨r, hr, hresult⟩
  · exact ⟨Nat.min_le_right _ _, fun _ => rfl⟩
  · obtain ⟨hout, hword⟩ := Rule.two_le_of_result? (hrules r hr) hresult
    exact ⟨by omega, fun hshort => by omega⟩

theorem Leads.length_le (h : Leads rules word out)
    (hrules : ∀ r ∈ rules, r.replacement.length ≤ r.suffix.length) :
    out.length ≤ word.length := by
  rcases h with rfl | ⟨r, hr, hresult⟩
  · exact Nat.le_refl _
  · exact Rule.length_le_of_result? (hrules r hr) hresult

/-! ## Words that became longer -/

/-- A late rule that applies to a word in `-ão` makes it shorter. -/
theorem length_lt_of_lateRules (hr : r ∈ lateRules) (hword : augmentativeEnding <:+ word)
    (h : r.result? word = some out) : out.length < word.length := by
  obtain ⟨-, -, hshorter⟩ := lateRules_bounded r hr
  exact Rule.length_lt_of_result? (hshorter (Rule.meets_of_result? hword h)) h

/-- A late step that changes a word in `-ão` makes it shorter. -/
theorem Leads.eq_or_length_lt (h : Leads lateRules word out)
    (hword : augmentativeEnding <:+ word) : out = word ∨ out.length < word.length :=
  h.imp_right fun ⟨_, hr, hresult⟩ => length_lt_of_lateRules hr hword hresult

/-- The last vowel of a word in `-ão` can come off. -/
theorem step?_vowel_ne_none {start : Text} (h : 2 ≤ start.length) :
    step? vowel (start ++ augmentativeEnding) ≠ none := by
  have hexcept : start ++ augmentativeEnding ≠ augmentativeEnding := by
    intro heq
    have hlength := congrArg List.length heq
    rw [List.length_append] at hlength
    omega
  have hresult : (rule "o" 3 "" ["ão"]).result? (start ++ augmentativeEnding)
      = some (start ++ ['ã']) := by
    refine Rule.result?_eq_some_iff.2 ⟨start ++ ['ã'], ?_, ?_, ?_, ?_⟩
    · simp [augmentativeEnding, rule]
    · simp [rule]
    · simpa [rule] using h
    · simpa [rule, augmentativeEnding] using hexcept
  intro hnone
  have hno := List.findSome?_eq_none_iff.1 hnone (rule "o" 3 "" ["ão"]) (by simp [vowel])
  rw [hresult] at hno
  cases hno

/-- **What comes behind the feminine endings makes a word in `-ão` shorter.** -/
theorem length_dropEnding_lt {start plain adjective : Text} (hstart : 2 ≤ start.length)
    (hplain : Leads lateRules (start ++ augmentativeEnding) plain)
    (hadjective : Leads lateRules plain adjective) :
    (dropEnding adjective).length < (start ++ augmentativeEnding).length := by
  have hending : augmentativeEnding <:+ start ++ augmentativeEnding := List.suffix_append _ _
  have hlateRules : ∀ r ∈ lateRules, r.replacement.length ≤ r.suffix.length := fun r hr =>
    (lateRules_bounded r hr).2.1
  have hdrop := (leads_dropEnding adjective).length_le hlateRules
  have hadverb := hadjective.length_le hlateRules
  rcases hplain.eq_or_length_lt hending with rfl | hlt
  · rcases hadjective.eq_or_length_lt hending with rfl | hlt
    · rcases dropEnding_cases (start ++ augmentativeEnding) with ⟨r, hr, hresult⟩ | ⟨-, hnone⟩
      · exact length_lt_of_lateRules hr hending hresult
      · exact absurd hnone (step?_vowel_ne_none hstart)
    · exact Nat.lt_of_le_of_lt hdrop hlt
  · exact Nat.lt_of_le_of_lt (hdrop.trans hadverb) hlt

/-! ## Stems -/

theorem keepsTwo_stem (word : Text) : KeepsTwo word (stem word) := by
  obtain ⟨singular, masculine, plain, adjective, hplural, hfeminine, hplain, hadjective, hstem⟩ :=
    exists_leads_stem word
  have hlate : ∀ r ∈ lateRules, r.KeepsTwo := fun r hr => (lateRules_bounded r hr).1
  have hsingular : KeepsTwo word singular := hplural.keepsTwo fun r hr => (plural_bounded r hr).1
  have hmasculine : KeepsTwo singular masculine :=
    hfeminine.keepsTwo fun r hr => (feminine_bounded r hr).1
  have hadjective : KeepsTwo masculine adjective :=
    (hplain.keepsTwo hlate).trans (hadjective.keepsTwo hlate)
  have hending : KeepsTwo adjective (dropEnding adjective) :=
    (leads_dropEnding adjective).keepsTwo hlate
  rw [hstem]
  exact ((hsingular.trans hmasculine).trans hadjective).trans hending

theorem length_stem_le (word : Text) : (stem word).length ≤ word.length := by
  obtain ⟨singular, masculine, plain, adjective, hplural, hfeminine, hplain, hadjective, hstem⟩ :=
    exists_leads_stem word
  have hsingular := hplural.length_le fun r hr => (plural_bounded r hr).2
  have hlateRules : ∀ r ∈ lateRules, r.replacement.length ≤ r.suffix.length := fun r hr =>
    (lateRules_bounded r hr).2.1
  have hlate : (dropEnding adjective).length ≤ masculine.length := calc
    (dropEnding adjective).length ≤ adjective.length :=
      (leads_dropEnding adjective).length_le hlateRules
    _ ≤ plain.length := hadjective.length_le hlateRules
    _ ≤ masculine.length := hplain.length_le hlateRules
  rw [hstem]
  rcases hfeminine with rfl | ⟨r, hr, hresult⟩
  · exact hlate.trans hsingular
  · rcases (feminine_bounded r hr).2 with hle | ⟨hone, htwo, hreplacement⟩
    · exact (hlate.trans (Rule.length_le_of_result? hle hresult)).trans hsingular
    · -- The word became one letter longer, and it ends in `-ão`.
      obtain ⟨start, rfl, rfl, hmin, -⟩ := Rule.result?_eq_some_iff.1 hresult
      rw [hreplacement] at hplain
      have hlt := length_dropEnding_lt (htwo.trans hmin) hplain hadjective
      have hending : augmentativeEnding.length = 2 := by decide
      rw [List.length_append] at hlt hsingular
      omega

/-- **Stems stay within bounds.** A stem has no more characters than its word, and at least two if
the word has two. So only the empty word has an empty stem, and a word of at most two characters is
its own stem. -/
theorem stem_within_bounds (word : Text) :
    (stem word).length ≤ word.length
      ∧ min 2 word.length ≤ (stem word).length
      ∧ (word ≠ [] → stem word ≠ [])
      ∧ (word.length ≤ 2 → stem word = word) := by
  have hkeeps := keepsTwo_stem word
  refine ⟨length_stem_le word, hkeeps.min_le, fun hne => ?_, hkeeps.eq_of_le⟩
  have hword : 0 < word.length := List.length_pos_of_ne_nil hne
  have hmin := hkeeps.min_le
  exact List.ne_nil_of_length_pos (by omega)

/-- A word that becomes longer and then loses a vowel. -/
example : step feminine "abã".toList = "abão".toList ∧ stem "abã".toList = "abã".toList := by
  decide +kernel

end Removal

end TexCensus.Stem
