import TexCensus.Proofs.Record.Counted
import TexCensus.Proofs.Unicode.Fields
import TexCensus.Proofs.Words.Vocabulary

/-!
# Rules that are refused for their case

A rule is refused if what it looks for has a capital, because words are in lower case. Where the
capital has a small letter, the rule could indeed never find anything. But a capital without a
small letter is left in its word, and every such capital stands in words of some text. A refused
rule finds nothing exactly if one of the texts it looks for cannot be a word
(`Analysis.isIdle_of_refusedForCase`).
-/

namespace TexCensus

open Unicode

/-! ## Capitals in words -/

namespace WordCounter

variable (counter : WordCounter)

/-- Of the capitals only those without a small letter stand in words. -/
theorem CanFind.isUnpairedCapital {counter : WordCounter} {w : Text} (h : counter.CanFind w)
    {c : Char} (hc : c ∈ w) (hcapital : isUppercase c = true) : isUnpairedCapital c = true :=
  isUnpairedCapital_iff.2 ⟨hcapital, h.1.lowercaseChar_eq c hc⟩

/-- A capital without a small letter that stands twice can be a word, whatever the filter. -/
theorem canFind_of_isUnpairedCapital {c : Char} (h : isUnpairedCapital c = true) :
    counter.CanFind [c, c] := by
  have hlower := (isUnpairedCapital_iff.1 h).2
  have hword := isWord_of_isUnpairedCapital h
  have halphabetic := isAlphabetic_of_isUnpairedCapital h
  refine ⟨⟨by simp, by simp [hword], by simp [hlower]⟩, ?_⟩
  simp [TokenFilter.keeps, halphabetic]

end WordCounter

/-- **The capitals in words are those without a small letter.** -/
theorem Analysis.exists_word_of_capital_iff (a : Analysis) {c : Char}
    (hcapital : isUppercase c = true) :
    (∃ cleaned, ∃ w ∈ a.counter.words cleaned, c ∈ w) ↔ isUnpairedCapital c = true := by
  constructor
  · rintro ⟨cleaned, w, hw, hc⟩
    exact (WordCounter.canFind_of_mem_words hw).isUnpairedCapital hc hcapital
  · intro h
    have hwords := a.words_joinWith
      (List.forall_mem_singleton.2 (a.counter.canFind_of_isUnpairedCapital h))
    exact ⟨_, [c, c], hwords ▸ List.mem_singleton_self [c, c], List.mem_cons_self⟩

/-! ## Refused rules -/

namespace Correction

/-- The text of a rule that must not have a capital. -/
def checkedText : Correction → Text
  | rename source _ => source
  | phrase p => p

/-- Whether a rule is refused for its case. -/
def RefusedForCase (rule : Correction) : Prop :=
  rule.fault? = some .sourceNotLowercase ∨ rule.fault? = some .phraseNotLowercase

instance (rule : Correction) : Decidable rule.RefusedForCase :=
  inferInstanceAs (Decidable (_ ∨ _))

/-- A rule that is refused for its case looks for something. -/
theorem RefusedForCase.sought_ne_nil {rule : Correction} (h : rule.RefusedForCase) :
    rule.sought ≠ [] := by
  cases rule with
  | rename source target => exact List.cons_ne_nil source []
  | phrase p =>
    intro hp
    rw [sought] at hp
    simp [RefusedForCase, fault?, hp] at h

/-- Capitals in the text that is checked are in the texts that a rule looks for. -/
theorem exists_mem_sought {rule : Correction} {c : Char} (hc : c ∈ rule.checkedText)
    (hcapital : isUppercase c = true) : ∃ w ∈ rule.sought, c ∈ w := by
  cases rule with
  | rename source target => exact ⟨source, List.mem_singleton_self source, hc⟩
  | phrase p => exact exists_mem_fields hc (isWhiteSpace_of_isUppercase hcapital)

end Correction

namespace Analysis

/-- Whether a rule leaves every record alone that no rule has changed yet. -/
def IsIdle (a : Analysis) (rule : Correction) : Prop :=
  ∀ snapshot source, (a.uncorrected snapshot source).correct (a.words source) [rule]
    = a.uncorrected snapshot source

variable (a : Analysis)

/-- **A rule finds nothing in any text exactly if a text that it looks for cannot be a word.** -/
theorem isIdle_iff {rule : Correction} (hne : rule.sought ≠ []) :
    a.IsIdle rule ↔ ∃ w ∈ rule.sought, ¬a.counter.CanFind w := by
  constructor
  · intro hidle
    by_contra hall
    have hfind : ∀ w ∈ rule.sought, a.counter.CanFind w := by simpa using hall
    -- In the text that consists of what the rule looks for, it finds that once.
    have hnone := (a.correct_eq_self_iff {} _ rule).1 (hidle {} (joinWith [' '] rule.sought))
    rw [a.words_joinWith hfind, Correction.occurrences_sought hne] at hnone
    cases hnone
  · rintro ⟨w, hw, hcannot⟩ snapshot source
    rw [correct_eq_self_iff]
    by_contra hfound
    have hmem := Correction.sought_subset (Nat.pos_of_ne_zero hfound) hw
    exact hcannot (WordCounter.canFind_of_mem_words hmem)

/-- **What a check of the case keeps out.** The capitals that stand in words are exactly those
without a small letter, whatever the filter. So a rule that is refused for a capital with a small
letter would have left every counted record alone. Of all rules that are refused for their case,
those would have done so that look for a text that cannot be a word, and no others. -/
theorem isIdle_of_refusedForCase :
    (∀ c, isUppercase c = true →
      ((∃ cleaned, ∃ w ∈ a.counter.words cleaned, c ∈ w) ↔ isUnpairedCapital c = true))
      ∧ ∀ rule : Correction, rule.RefusedForCase →
        ((∃ c ∈ rule.checkedText, isUppercase c = true ∧ isUnpairedCapital c = false) →
          a.IsIdle rule)
        ∧ (a.IsIdle rule ↔ ∃ w ∈ rule.sought, ¬a.counter.CanFind w) := by
  refine ⟨fun c hcapital => a.exists_word_of_capital_iff hcapital, fun rule hrefused => ?_⟩
  have hidle := a.isIdle_iff hrefused.sought_ne_nil
  refine ⟨?_, hidle⟩
  rintro ⟨c, hc, hcapital, hpaired⟩
  obtain ⟨w, hw, hcw⟩ := Correction.exists_mem_sought hc hcapital
  refine hidle.2 ⟨w, hw, fun hfind => ?_⟩
  rw [hfind.isUnpairedCapital hcw hcapital] at hpaired
  cases hpaired

/-- A phrase with a capital of the alphabet and one of the alphabets of mathematics. -/
theorem isIdle_of_refusedForCase_of_mixed_capitals :
    let a : Analysis := {
      cleaner := { listingLanguage := "python".toList }
      counter := {
        filter := { dropNonAlphabetic := true, dropSingleLetters := true, whitelist := [] }
        stopwords := ⟨["o".toList], by decide⟩
        stemmer := .rslp }
      corrections := [] }
    let rule : Correction := .phrase "𝐀𝐁 Gato".toList
    rule.RefusedForCase ∧ a.IsIdle rule := by
  intro a rule
  have hrefused : rule.RefusedForCase := by decide
  have hcapital : ∃ c ∈ rule.checkedText, isUppercase c = true ∧ isUnpairedCapital c = false :=
    ⟨'G', by decide, by decide, by decide⟩
  exact ⟨hrefused, ((a.isIdle_of_refusedForCase.2 rule hrefused).1 hcapital)⟩

/-- Bold capitals of mathematics stand in a word. A rename and a phrase that look for it are refused
for their case, though either would change the record. -/
theorem not_isIdle_of_bold_capitals :
    let a : Analysis := {
      cleaner := { listingLanguage := "python".toList }
      counter := {
        filter := { dropNonAlphabetic := true, dropSingleLetters := true, whitelist := [] }
        stopwords := ⟨["o".toList], by decide⟩
        stemmer := .rslp }
      corrections := [] }
    let source := "𝐀𝐁 gato".toList
    let r := a.uncorrected {} source
    let rename : Correction := .rename "𝐀𝐁".toList "x".toList
    let phrase : Correction := .phrase "𝐀𝐁 gato".toList
    a.words source = ["𝐀𝐁".toList, "gato".toList] ∧ isUppercase '𝐀' = true
      ∧ rename.fault? = some .sourceNotLowercase ∧ r.correct (a.words source) [rename] ≠ r
      ∧ phrase.fault? = some .phraseNotLowercase ∧ r.correct (a.words source) [phrase] ≠ r := by
  intro a source r rename phrase
  have hsought : phrase.sought = ["𝐀𝐁".toList, "gato".toList] := by decide
  have hsource : source = joinWith [' '] phrase.sought := by decide
  have hwords : a.words source = phrase.sought := by
    rw [hsource]
    exact a.words_joinWith (by decide +kernel)
  have hrename : rename.occurrences (a.words source) = 1 := by rw [hwords, hsought]; rfl
  have hphrase : phrase.occurrences (a.words source) = 1 := by
    rw [hwords]
    exact Correction.occurrences_sought (by rw [hsought]; exact List.cons_ne_nil _ _)
  refine ⟨hwords.trans hsought, by decide, by decide, ?_, by decide, ?_⟩
  · rw [ne_eq, a.correct_eq_self_iff, hrename]
    exact Nat.one_ne_zero
  · rw [ne_eq, a.correct_eq_self_iff, hphrase]
    exact Nat.one_ne_zero

end Analysis

end TexCensus
