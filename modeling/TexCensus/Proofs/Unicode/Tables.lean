import Mathlib.Data.List.Chain
import TexCensus.Unicode.Ranges

/-!
# Tables as sets

A search in a table whose entries begin in order finds every code point that an entry covers
(`inRanges_iff`, `inRuns_iff`), though it stops early. To compare tables of many entries in one
step, each is written as the number whose bits are set at the code points it covers (`rangeset`,
`bitset`).
-/

namespace TexCensus.Unicode

/-! ## Sets of code points as numbers -/

/-- The number whose bits are set at the places in a list. -/
def bitset (ns : List Nat) : Nat :=
  ns.foldr (fun n s => 1 <<< n ||| s) 0

theorem testBit_bitset (ns : List Nat) (n : Nat) :
    (bitset ns).testBit n = true ↔ n ∈ ns := by
  induction ns with
  | nil => simp [bitset]
  | cons m ns ih =>
    rw [bitset, List.foldr_cons, Nat.testBit_or, Bool.or_eq_true, ← bitset, ih,
      Nat.one_shiftLeft, Nat.testBit_two_pow, decide_eq_true_eq, List.mem_cons, eq_comm]

/-- The number whose bits are set at the places in closed ranges. -/
def rangeset (ranges : List (Nat × Nat)) : Nat :=
  ranges.foldr (fun r s => (1 <<< (r.2 + 1 - r.1) - 1) <<< r.1 ||| s) 0

theorem testBit_rangeset (ranges : List (Nat × Nat)) (n : Nat) :
    (rangeset ranges).testBit n = true ↔ ∃ r ∈ ranges, r.1 ≤ n ∧ n ≤ r.2 := by
  induction ranges with
  | nil => simp [rangeset]
  | cons r ranges ih =>
    rw [rangeset, List.foldr_cons, Nat.testBit_or, Bool.or_eq_true, ← rangeset, ih,
      Nat.testBit_shiftLeft, Nat.one_shiftLeft, Nat.testBit_two_pow_sub_one,
      List.exists_mem_cons_iff, Bool.and_eq_true, decide_eq_true_eq, decide_eq_true_eq]
    refine or_congr_left (and_congr_right fun hle => ?_)
    omega

variable {s other n : Nat}

/-- Sets without a common member. -/
theorem testBit_eq_false_of_and (h : s &&& other = 0) (hn : s.testBit n = true) :
    other.testBit n = false := by
  have hboth := Nat.testBit_and s other n
  rwa [h, hn, Nat.zero_testBit, Bool.true_and, eq_comm] at hboth

/-- A set that is a part of another one. -/
theorem testBit_of_and (h : s &&& other = s) (hn : s.testBit n = true) :
    other.testBit n = true := by
  have hboth := Nat.testBit_and s other n
  rwa [h, hn, Bool.true_and, eq_comm] at hboth

/-- The members of a list that are not in another one. -/
theorem mem_diff_iff_of_bitset {ns ms rest : List Nat}
    (h : bitset ns ^^^ (bitset ns &&& bitset ms) = bitset rest) {n : Nat} :
    n ∈ ns ∧ n ∉ ms ↔ n ∈ rest := by
  rw [← testBit_bitset rest, ← h, Nat.testBit_xor, Nat.testBit_and, ← testBit_bitset ns,
    ← testBit_bitset ms]
  cases (bitset ns).testBit n <;> cases (bitset ms).testBit n <;> simp

/-! ## Searches in tables -/

/-- **A search in ranges that begin in order finds what one of them covers.** -/
theorem inRanges_iff {ranges : List (Nat × Nat)} (h : ranges.IsChain (·.1 ≤ ·.1)) :
    inRanges ranges n = true ↔ (rangeset ranges).testBit n = true := by
  rw [testBit_rangeset]
  rw [List.isChain_iff_pairwise] at h
  induction ranges with
  | nil => simp [inRanges]
  | cons r ranges ih =>
    obtain ⟨hfirst, hpairwise⟩ := List.pairwise_cons.1 h
    rw [inRanges, List.exists_mem_cons_iff]
    split
    · next hlt =>
      -- No range begins early enough to cover the code point.
      refine iff_of_false Bool.false_ne_true ?_
      rintro (⟨hle, -⟩ | ⟨next, hnext, hle, -⟩)
      · omega
      · have := hfirst next hnext
        omega
    · next hge =>
      rw [Bool.or_eq_true, decide_eq_true_eq, ih hpairwise, and_iff_right (Nat.le_of_not_lt hge)]

/-- The code points of a run. -/
def Run.members (r : Run) : List Nat :=
  List.range' r.first ((r.last - r.first) / r.stride + 1) r.stride

/-- Whether runs have members and begin in order. -/
structure Ordered (runs : List Run) : Prop where
  first_le_last : ∀ r ∈ runs, r.first ≤ r.last
  stride_pos : ∀ r ∈ runs, 0 < r.stride
  pairwise : runs.Pairwise (·.first ≤ ·.first)

theorem Ordered.of_isChain {runs : List Run}
    (hruns : (runs.all fun r => r.first ≤ r.last && 0 < r.stride) = true)
    (hchain : runs.IsChain (·.first ≤ ·.first)) : Ordered runs := by
  simp only [List.all_eq_true, Bool.and_eq_true, decide_eq_true_eq] at hruns
  exact ⟨fun r hr => (hruns r hr).1, fun r hr => (hruns r hr).2,
    List.isChain_iff_pairwise.1 hchain⟩

theorem Ordered.tail {r : Run} {runs : List Run} (h : Ordered (r :: runs)) : Ordered runs where
  first_le_last s hs := h.first_le_last s (List.mem_cons_of_mem r hs)
  stride_pos s hs := h.stride_pos s (List.mem_cons_of_mem r hs)
  pairwise := (List.pairwise_cons.1 h.pairwise).2

theorem Run.first_le {r : Run} {n : Nat} (h : n ∈ r.members) : r.first ≤ n := by
  obtain ⟨i, -, rfl⟩ := List.mem_range'.1 h
  omega

theorem Run.mem_members_iff {r : Run} (hle : r.first ≤ r.last) (hpos : 0 < r.stride) {n : Nat} :
    n ∈ r.members ↔ r.contains n = true := by
  simp only [members, contains, List.mem_range', Bool.and_eq_true, decide_eq_true_eq, beq_iff_eq]
  constructor
  · rintro ⟨i, hi, rfl⟩
    have hmul : r.stride * i ≤ r.last - r.first := by
      rw [Nat.mul_comm]
      exact (Nat.le_div_iff_mul_le hpos).1 (Nat.le_of_lt_succ hi)
    rw [Nat.add_sub_cancel_left]
    exact ⟨⟨by omega, by omega⟩, Nat.mul_mod_right ..⟩
  · rintro ⟨⟨hfirst, hlast⟩, hmod⟩
    refine ⟨(n - r.first) / r.stride, ?_, ?_⟩
    · exact Nat.lt_succ_of_le (Nat.div_le_div_right (by omega))
    · have hdiv := Nat.div_add_mod (n - r.first) r.stride
      omega

/-- In front of all runs there is no member. -/
theorem Ordered.not_mem_of_lt {r : Run} {runs : List Run} (h : Ordered (r :: runs)) {n : Nat}
    (hlt : n < r.first) : n ∉ (r :: runs).flatMap Run.members := by
  rw [List.mem_flatMap]
  rintro ⟨s, hs, hn⟩
  have hle := Run.first_le hn
  rcases List.mem_cons.1 hs with rfl | hs
  · omega
  · have hfirst := (List.pairwise_cons.1 h.pairwise).1 s hs
    omega

/-- **A search in runs that begin in order finds their members.** -/
theorem inRuns_iff {runs : List Run} (h : Ordered runs) {n : Nat} :
    inRuns runs n = true ↔ n ∈ runs.flatMap Run.members := by
  induction runs with
  | nil => simp [inRuns]
  | cons r runs ih =>
    rw [inRuns]
    split
    · next hlt => simpa using h.not_mem_of_lt hlt
    · rw [Bool.or_eq_true, ih h.tail, List.flatMap_cons, List.mem_append,
        Run.mem_members_iff (h.first_le_last r List.mem_cons_self)
          (h.stride_pos r List.mem_cons_self)]

end TexCensus.Unicode
