import TexCensus.Proofs.Unicode.Tables
import TexCensus.Unicode.Lowercase
import TexCensus.Unicode.Uppercase
import TexCensus.Unicode.WhiteSpace
import TexCensus.Unicode.WordCharacter

/-!
# Capitals and their small letters

Lowercasing leaves its own results alone: no small letter has a small letter of its own
(`lowercaseChar_of_mem`). But not every character with the property Uppercase has a small letter.
Those without one are letters that stand for something by their shape, as in `ℂ` or in the alphabets
of mathematics, and letters in boxes and circles (`isUnpairedCapital_iff`).
-/

namespace TexCensus.Unicode

/-! ## Distances to small letters -/

theorem caseShift?_eq_none_iff {shifts : List CaseShift} (h : Ordered (shifts.map (·.run)))
    {n : Nat} : caseShift? n shifts = none ↔ n ∉ (shifts.map (·.run)).flatMap Run.members := by
  induction shifts with
  | nil => simp [caseShift?]
  | cons s shifts ih =>
    rw [List.map_cons] at h ⊢
    rw [caseShift?]
    split
    · next hlt => simpa using h.not_mem_of_lt hlt
    · rw [List.flatMap_cons, List.mem_append, not_or, ← ih h.tail,
        Run.mem_members_iff (h.first_le_last s.run List.mem_cons_self)
          (h.stride_pos s.run List.mem_cons_self)]
      split
      · next hc => simp [hc]
      · next hc => simp [hc]

/-- A distance that is found belongs to a run that holds the code point. -/
theorem exists_of_caseShift? {shifts : List CaseShift} {n : Nat} {shift : Int}
    (h : caseShift? n shifts = some shift) :
    ∃ s ∈ shifts, s.run.contains n = true ∧ s.shift = shift := by
  induction shifts with
  | nil => cases h
  | cons s shifts ih =>
    rw [caseShift?] at h
    split at h
    · cases h
    · split at h
      · next hc => exact ⟨s, List.mem_cons_self, hc, Option.some.inj h⟩
      · obtain ⟨t, ht, hn⟩ := ih h
        exact ⟨t, List.mem_cons_of_mem s ht, hn⟩

/-! ## Small letters -/

/-- The runs of the characters that have a small letter. -/
def pairedRuns : List Run :=
  caseShifts.map (·.run)

/-- The code points of the characters that have a small letter, the capital I with a dot among
them. -/
def pairedCodes : List Nat :=
  0x130 :: pairedRuns.flatMap Run.members

/-- The code points of the small letters. The first two stand for the capital I with a dot, and zero
is what a distance out of the range of characters would give. -/
def smallCodes : List Nat :=
  0x69 :: 0x307 :: 0 :: caseShifts.flatMap fun s => s.run.members.map fun n : Nat =>
    (n + s.shift).toNat

set_option maxRecDepth 4000 in
theorem pairedRuns_ordered : Ordered pairedRuns := .of_isChain (by decide) (by decide)

/-- **No small letter has a small letter of its own.** -/
theorem not_mem_pairedCodes_of_small {n : Nat} (h : n ∈ smallCodes) : n ∉ pairedCodes := by
  have hdisjoint : bitset smallCodes &&& bitset pairedCodes = 0 := by decide +kernel
  rw [← testBit_bitset] at h
  rw [← testBit_bitset, testBit_eq_false_of_and hdisjoint h]
  exact Bool.false_ne_true

theorem lowercaseChar_of_not_mem {c : Char} (h : c.toNat ∉ pairedCodes) :
    lowercaseChar c = [c] := by
  rw [pairedCodes, List.mem_cons, not_or] at h
  have hdot : c ≠ '\u0130' := by
    rintro rfl
    exact h.1 rfl
  rw [lowercaseChar, if_neg hdot, (caseShift?_eq_none_iff pairedRuns_ordered).2 h.2]

/-- A number that is no code point stands for the character with code point zero. -/
theorem toNat_charOfNat (n : Nat) : (Char.ofNat n).toNat = if n.isValidChar then n else 0 := by
  rw [Char.ofNat]
  by_cases h : n.isValidChar
  · rw [dif_pos h, if_pos h]
    rfl
  · rw [dif_neg h, if_neg h]
    rfl

/-- A distance of the table belongs to a run of which the code point is a member. -/
theorem exists_mem_members {n : Nat} {shift : Int} (h : caseShift? n caseShifts = some shift) :
    ∃ s ∈ caseShifts, n ∈ s.run.members ∧ s.shift = shift := by
  obtain ⟨s, hs, hn, hshift⟩ := exists_of_caseShift? h
  have hrun : s.run ∈ pairedRuns := List.mem_map_of_mem hs
  rw [← Run.mem_members_iff (pairedRuns_ordered.first_le_last _ hrun)
    (pairedRuns_ordered.stride_pos _ hrun)] at hn
  exact ⟨s, hs, hn, hshift⟩

/-- What a distance leads to is a small letter. -/
theorem toNat_mem_smallCodes {n : Nat} {shift : Int} (h : caseShift? n caseShifts = some shift) :
    (Char.ofNat (n + shift).toNat).toNat ∈ smallCodes := by
  obtain ⟨s, hs, hn, rfl⟩ := exists_mem_members h
  have hsmall : (n + s.shift).toNat ∈ caseShifts.flatMap fun s =>
      s.run.members.map fun n : Nat => (n + s.shift).toNat :=
    List.mem_flatMap.2 ⟨s, hs, List.mem_map_of_mem hn⟩
  rw [toNat_charOfNat]
  split
  · exact List.mem_cons_of_mem _ (List.mem_cons_of_mem _ (List.mem_cons_of_mem _ hsmall))
  · exact List.mem_cons_of_mem _ (List.mem_cons_of_mem _ List.mem_cons_self)

/-- What takes the place of a character is a small letter or the character itself, which has none.
-/
theorem not_mem_pairedCodes_of_mem {c d : Char} (h : d ∈ lowercaseChar c) :
    d.toNat ∉ pairedCodes := by
  rw [lowercaseChar] at h
  split at h
  · rcases List.mem_pair.1 h with rfl | rfl
    · exact not_mem_pairedCodes_of_small List.mem_cons_self
    · exact not_mem_pairedCodes_of_small (List.mem_cons_of_mem _ List.mem_cons_self)
  · next hdot =>
    split at h
    · next shift hshift =>
      rw [List.mem_singleton.1 h]
      exact not_mem_pairedCodes_of_small (toNat_mem_smallCodes hshift)
    · next hnone =>
      rw [List.mem_singleton.1 h, pairedCodes, List.mem_cons, not_or]
      refine ⟨fun hcode => hdot ?_, (caseShift?_eq_none_iff pairedRuns_ordered).1 hnone⟩
      exact Char.toNat_inj.1 hcode

/-- Lowercasing leaves exactly the characters without a small letter as they are. -/
theorem lowercaseChar_eq_self_iff {c : Char} :
    lowercaseChar c = [c] ↔ c.toNat ∉ pairedCodes := by
  refine ⟨fun h => ?_, lowercaseChar_of_not_mem⟩
  exact not_mem_pairedCodes_of_mem (h ▸ List.mem_singleton_self c)

/-- **Lowercasing leaves its own results as they are.** -/
theorem lowercaseChar_of_mem {c d : Char} (h : d ∈ lowercaseChar c) : lowercaseChar d = [d] :=
  lowercaseChar_of_not_mem (not_mem_pairedCodes_of_mem h)

/-! ## Capitals without a small letter -/

/-- The code points with the property Uppercase that have no small letter: variants of the capital
upsilon, letterlike symbols, the alphabets of mathematics, and letters in boxes and circles. -/
def unpairedCapitalRuns : List Run := [
  ⟨0x3D2, 0x3D4, 1⟩, ⟨0x2102, 0x2102, 1⟩, ⟨0x2107, 0x2107, 1⟩, ⟨0x210B, 0x210D, 1⟩,
  ⟨0x2110, 0x2112, 1⟩, ⟨0x2115, 0x2115, 1⟩, ⟨0x2119, 0x211D, 1⟩, ⟨0x2124, 0x2124, 1⟩,
  ⟨0x2128, 0x2128, 1⟩, ⟨0x212C, 0x212D, 1⟩, ⟨0x2130, 0x2131, 1⟩, ⟨0x2133, 0x2133, 1⟩,
  ⟨0x213E, 0x213F, 1⟩, ⟨0x2145, 0x2145, 1⟩, ⟨0x1D400, 0x1D419, 1⟩, ⟨0x1D434, 0x1D44D, 1⟩,
  ⟨0x1D468, 0x1D481, 1⟩, ⟨0x1D49C, 0x1D49C, 1⟩, ⟨0x1D49E, 0x1D49F, 1⟩, ⟨0x1D4A2, 0x1D4A2, 1⟩,
  ⟨0x1D4A5, 0x1D4A6, 1⟩, ⟨0x1D4A9, 0x1D4AC, 1⟩, ⟨0x1D4AE, 0x1D4B5, 1⟩, ⟨0x1D4D0, 0x1D4E9, 1⟩,
  ⟨0x1D504, 0x1D505, 1⟩, ⟨0x1D507, 0x1D50A, 1⟩, ⟨0x1D50D, 0x1D514, 1⟩, ⟨0x1D516, 0x1D51C, 1⟩,
  ⟨0x1D538, 0x1D539, 1⟩, ⟨0x1D53B, 0x1D53E, 1⟩, ⟨0x1D540, 0x1D544, 1⟩, ⟨0x1D546, 0x1D546, 1⟩,
  ⟨0x1D54A, 0x1D550, 1⟩, ⟨0x1D56C, 0x1D585, 1⟩, ⟨0x1D5A0, 0x1D5B9, 1⟩, ⟨0x1D5D4, 0x1D5ED, 1⟩,
  ⟨0x1D608, 0x1D621, 1⟩, ⟨0x1D63C, 0x1D655, 1⟩, ⟨0x1D670, 0x1D689, 1⟩, ⟨0x1D6A8, 0x1D6C0, 1⟩,
  ⟨0x1D6E2, 0x1D6FA, 1⟩, ⟨0x1D71C, 0x1D734, 1⟩, ⟨0x1D756, 0x1D76E, 1⟩, ⟨0x1D790, 0x1D7A8, 1⟩,
  ⟨0x1D7CA, 0x1D7CA, 1⟩, ⟨0x1F130, 0x1F149, 1⟩, ⟨0x1F150, 0x1F169, 1⟩, ⟨0x1F170, 0x1F189, 1⟩]

/-- Whether a character is a capital without a small letter. -/
def isUnpairedCapital (c : Char) : Bool :=
  inRuns unpairedCapitalRuns c.toNat

set_option maxRecDepth 4000 in
theorem uppercaseRuns_ordered : Ordered uppercaseRuns := .of_isChain (by decide) (by decide)

theorem unpairedCapitalRuns_ordered : Ordered unpairedCapitalRuns :=
  .of_isChain (by decide) (by decide)

theorem mem_unpairedCapitalRuns_iff {n : Nat} :
    n ∈ uppercaseRuns.flatMap Run.members ∧ n ∉ pairedCodes
      ↔ n ∈ unpairedCapitalRuns.flatMap Run.members := by
  have hdiff : bitset (uppercaseRuns.flatMap Run.members)
      ^^^ (bitset (uppercaseRuns.flatMap Run.members) &&& bitset pairedCodes)
        = bitset (unpairedCapitalRuns.flatMap Run.members) := by
    decide +kernel
  exact mem_diff_iff_of_bitset hdiff

/-- **The capitals that lowercasing leaves as they are.** -/
theorem isUnpairedCapital_iff {c : Char} :
    isUnpairedCapital c = true ↔ isUppercase c = true ∧ lowercaseChar c = [c] := by
  rw [isUnpairedCapital, isUppercase, inRuns_iff unpairedCapitalRuns_ordered,
    inRuns_iff uppercaseRuns_ordered, lowercaseChar_eq_self_iff,
    mem_unpairedCapitalRuns_iff]

/-! ## Other properties of capitals -/

set_option maxRecDepth 8000 in
theorem alphabeticRanges_isChain : alphabeticRanges.IsChain (·.1 ≤ ·.1) := by decide

theorem lateAlphabeticRanges_isChain : lateAlphabeticRanges.IsChain (·.1 ≤ ·.1) := by decide

theorem whiteSpaceRanges_isChain : whiteSpaceRanges.IsChain (·.1 ≤ ·.1) := by decide

theorem testBit_of_isUnpairedCapital {c : Char} (h : isUnpairedCapital c = true) :
    (bitset (unpairedCapitalRuns.flatMap Run.members)).testBit c.toNat = true := by
  rw [testBit_bitset]
  exact (inRuns_iff unpairedCapitalRuns_ordered).1 h

theorem isAlphabetic_of_isUnpairedCapital {c : Char} (h : isUnpairedCapital c = true) :
    isAlphabetic c = true := by
  have hpart : bitset (unpairedCapitalRuns.flatMap Run.members) &&& rangeset alphabeticRanges
      = bitset (unpairedCapitalRuns.flatMap Run.members) := by
    decide +kernel
  rw [isAlphabetic, inRanges_iff alphabeticRanges_isChain]
  exact testBit_of_and hpart (testBit_of_isUnpairedCapital h)

/-- **Capitals without a small letter can stand in words.** -/
theorem isWord_of_isUnpairedCapital {c : Char} (h : isUnpairedCapital c = true) :
    isWord c = true := by
  have hknown : bitset (unpairedCapitalRuns.flatMap Run.members)
      &&& rangeset lateAlphabeticRanges = 0 := by
    decide +kernel
  refine isWord_of_isAlphabetic (isAlphabetic_of_isUnpairedCapital h) ?_
  rw [← Bool.not_eq_true, inRanges_iff lateAlphabeticRanges_isChain, Bool.not_eq_true]
  exact testBit_eq_false_of_and hknown (testBit_of_isUnpairedCapital h)

/-- No capital is white space. -/
theorem isWhiteSpace_of_isUppercase {c : Char} (h : isUppercase c = true) :
    isWhiteSpace c = false := by
  have hdisjoint :
      bitset (uppercaseRuns.flatMap Run.members) &&& rangeset whiteSpaceRanges = 0 := by
    decide +kernel
  rw [isUppercase, inRuns_iff uppercaseRuns_ordered, ← testBit_bitset] at h
  rw [isWhiteSpace, ← Bool.not_eq_true, inRanges_iff whiteSpaceRanges_isChain, Bool.not_eq_true]
  exact testBit_eq_false_of_and hdisjoint h

/-! ## Texts -/

/-- Lowercasing puts in place of each character what stands in place of some character. -/
theorem mem_lowercaseAfter {before t : Text} {d : Char} (h : d ∈ lowercaseAfter before [] t) :
    ∃ c, d ∈ lowercaseChar c := by
  induction t generalizing before with
  | nil => cases h
  | cons c t ih =>
    rw [lowercaseAfter, lowercaseAfter_acc, List.append_nil, List.reverse_reverse,
      List.mem_append] at h
    rcases h with h | h
    · split at h
      · split at h
        · exact ⟨'ς', h⟩
        · exact ⟨'σ', h⟩
      · exact ⟨c, h⟩
    · exact ih h

/-- **The characters of a lowercased text have no small letters.** -/
theorem lowercaseChar_of_mem_lowercase {t : Text} {d : Char} (h : d ∈ lowercase t) :
    lowercaseChar d = [d] := by
  obtain ⟨c, hc⟩ := mem_lowercaseAfter h
  exact lowercaseChar_of_mem hc

theorem lowercaseAfter_eq_self {t : Text} (h : ∀ c ∈ t, lowercaseChar c = [c]) (before : Text) :
    lowercaseAfter before [] t = t := by
  induction t generalizing before with
  | nil => rfl
  | cons c t ih =>
    rw [List.forall_mem_cons] at h
    have hsigma : c ≠ 'Σ' := by
      rintro rfl
      exact absurd h.1 (by decide)
    rw [lowercaseAfter, lowercaseAfter_acc, if_neg hsigma, h.1, ih h.2]
    rfl

/-- A text without characters that have a small letter stays as it is. -/
theorem lowercase_eq_self {t : Text} (h : ∀ c ∈ t, lowercaseChar c = [c]) : lowercase t = t :=
  lowercaseAfter_eq_self h []

end TexCensus.Unicode
