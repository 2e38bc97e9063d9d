import Std.Data.ExtHashMap

/-!
# Frequency tables

A `Frequency` counts keys and remembers the order in which they were first counted, because ranked
views break ties by that order. A key with count zero is not in the table.

The entries stand in an array in first-seen order; beside it a hash index gives the slot of every
key. That the index and the array agree is a field of the structure, and so is that no count is
zero, so every operation below says how it keeps both. The index is determined by the entries
(`Frequency.ext`): a table is its list of entries.

Counts have no bound here, which is enough for all that is counted in a text. A stored count has 64
bits; `Ledger64` says what becomes of a sum that does not fit them.
-/

namespace TexCensus

variable {K : Type} [DecidableEq K] [Hashable K]

/-- Counts of keys in the order in which the keys were first seen. -/
structure Frequency (K : Type) [DecidableEq K] [Hashable K] where
  /-- The slot of each key. -/
  index : Std.ExtHashMap K Nat
  /-- The keys with their counts, in first-seen order. -/
  entries : Array (K × Nat)
  /-- The index points to a slot exactly when that slot holds the key. -/
  index_eq_some_iff : ∀ (k : K) (i : Nat),
    index[k]? = some i ↔ ∃ n : Nat, entries[i]? = some (k, n)
  /-- No count is zero. -/
  count_pos : ∀ {i : Nat} {k : K} {n : Nat}, entries[i]? = some (k, n) → 0 < n

namespace Frequency

/-! ## The table as a list -/

/-- The entries in first-seen order. -/
def toList (f : Frequency K) : List (K × Nat) :=
  f.entries.toList

/-- The keys in first-seen order. -/
def keys (f : Frequency K) : List K :=
  f.toList.map Prod.fst

/-- **A table is determined by its entries.** -/
theorem ext {f g : Frequency K} (h : f.toList = g.toList) : f = g := by
  obtain ⟨ix, es, hix, _⟩ := f
  obtain ⟨ix', es', hix', _⟩ := g
  obtain rfl : es = es' := Array.toList_inj.mp h
  obtain rfl : ix = ix' := by
    apply Std.ExtHashMap.ext_getElem?
    intro k
    apply Option.ext
    intro i
    rw [hix, hix']
  rfl

instance : DecidableEq (Frequency K) := fun f g =>
  decidable_of_iff (f.toList = g.toList) ⟨ext, congrArg toList⟩

/-- Two slots that hold the same key are the same slot. -/
theorem slot_unique (f : Frequency K) {i j m n : Nat} {k : K}
    (hi : f.entries[i]? = some (k, m)) (hj : f.entries[j]? = some (k, n)) : i = j := by
  have h₁ := (f.index_eq_some_iff k i).2 ⟨m, hi⟩
  have h₂ := (f.index_eq_some_iff k j).2 ⟨n, hj⟩
  exact Option.some.inj (h₁.symm.trans h₂)

theorem index_eq_none_iff (f : Frequency K) (k : K) :
    f.index[k]? = none ↔ ∀ (i n : Nat), f.entries[i]? ≠ some (k, n) := by
  rw [Option.eq_none_iff_forall_ne_some]
  constructor
  · intro h i n he
    exact h i ((f.index_eq_some_iff k i).2 ⟨n, he⟩)
  · intro h i hi
    obtain ⟨n, hn⟩ := (f.index_eq_some_iff k i).1 hi
    exact h i n hn

/-! ## Building -/

/-- The table without entries. -/
def empty : Frequency K where
  entries := #[]
  index := ∅
  index_eq_some_iff := by simp
  count_pos := by simp

instance : EmptyCollection (Frequency K) := ⟨empty⟩

instance : Inhabited (Frequency K) := ⟨∅⟩

/-- Adds `n` to the entry in a slot that holds `k`. -/
def increaseAt (f : Frequency K) (i n : Nat) : Frequency K where
  entries := f.entries.modify i fun e => (e.1, e.2 + n)
  index := f.index
  index_eq_some_iff := by
    intro k j
    rw [f.index_eq_some_iff, Array.getElem?_modify]
    split
    · constructor
      · rintro ⟨m, hm⟩; exact ⟨m + n, by simp [hm]⟩
      · rintro ⟨m, hm⟩
        simp only [Option.map_eq_some_iff, Prod.mk.injEq] at hm
        obtain ⟨⟨k', m'⟩, he, rfl, -⟩ := hm
        exact ⟨m', he⟩
    · rfl
  count_pos := by
    intro j k m h
    rw [Array.getElem?_modify] at h
    split at h
    · simp only [Option.map_eq_some_iff, Prod.mk.injEq] at h
      obtain ⟨⟨k', m'⟩, he, -, rfl⟩ := h
      exact Nat.add_pos_left (f.count_pos he) n
    · exact f.count_pos h

/-- Puts a new key behind the others. -/
def push (f : Frequency K) (k : K) (n : Nat) (hk : f.index[k]? = none) (hn : 0 < n) :
    Frequency K where
  entries := f.entries.push (k, n)
  index := f.index.insert k f.entries.size
  index_eq_some_iff := by
    intro k' i
    rw [Std.ExtHashMap.getElem?_insert, Array.getElem?_push]
    have habs := (f.index_eq_none_iff k).1 hk
    by_cases hkk : k = k'
    · subst hkk
      simp only [beq_self_eq_true, if_true, Option.some.injEq]
      constructor
      · rintro rfl; exact ⟨n, by simp⟩
      · rintro ⟨m, hm⟩
        split at hm
        · next h => exact h.symm
        · exact absurd hm (habs i m)
    · simp only [beq_iff_eq, hkk, if_false]
      rw [f.index_eq_some_iff]
      split
      · next h =>
        subst h
        simp [hkk]
      · rfl
  count_pos := by
    intro i k' m h
    rw [Array.getElem?_push] at h
    split at h
    · simp only [Option.some.injEq, Prod.mk.injEq] at h
      omega
    · exact f.count_pos h

/-- Adds `n` occurrences of a key: a key that is there grows in place, a new one goes to the end.
Adding zero changes nothing. -/
def add (f : Frequency K) (k : K) (n : Nat) : Frequency K :=
  if hn : n = 0 then f
  else match hk : f.index[k]? with
    | some i => f.increaseAt i n
    | none => f.push k n hk (Nat.pos_of_ne_zero hn)

/-- Adds the pairs of a list one after another. -/
def addAll (f : Frequency K) (pairs : List (K × Nat)) : Frequency K :=
  pairs.foldl (fun f e => f.add e.1 e.2) f

/-- The table of a list of pairs: equal keys are summed at their first non-zero position. -/
def ofPairs (pairs : List (K × Nat)) : Frequency K :=
  empty.addAll pairs

/-- Counts the members of a list. -/
def count (items : List K) : Frequency K :=
  items.foldl (fun f k => f.add k 1) ∅

/-! ## Looking up -/

/-- The count of a key, zero if it is absent. -/
def get (f : Frequency K) (k : K) : Nat :=
  match f.index[k]? with
  | some i => (f.entries[i]?).elim 0 Prod.snd
  | none => 0

/-- Whether a key is in the table. -/
def contains (f : Frequency K) (k : K) : Bool :=
  f.index.contains k

/-- The number of distinct keys. -/
def size (f : Frequency K) : Nat :=
  f.entries.size

/-- Whether the table has no entries. -/
def isEmpty (f : Frequency K) : Bool :=
  f.entries.isEmpty

/-- The sum of all counts. -/
def total (f : Frequency K) : Nat :=
  f.toList.foldr (fun e n => e.2 + n) 0

/-! ## Removing -/

/-- Where a slot ends up once the slot `i` is gone. -/
def slotAfter (i j : Nat) : Nat :=
  if i < j then j - 1 else j

/-- Takes out the entry in slot `i`, which holds the key `k`. -/
def eraseSlot (f : Frequency K) (k : K) (i : Nat) (hk : f.index[k]? = some i) : Frequency K where
  entries := f.entries.eraseIdxIfInBounds i
  index := (f.index.erase k).map fun _ j => slotAfter i j
  index_eq_some_iff := by
    intro k' j
    obtain ⟨n, hn⟩ := (f.index_eq_some_iff k i).1 hk
    have hi : i < f.entries.size := by
      rcases Nat.lt_or_ge i f.entries.size with h | h
      · exact h
      · rw [Array.getElem?_eq_none h] at hn; cases hn
    rw [Std.ExtHashMap.getElem?_map, Std.ExtHashMap.getElem?_erase]
    simp only [Array.eraseIdxIfInBounds, hi, dif_pos, Array.getElem?_eraseIdx]
    by_cases hkk : k = k'
    · subst hkk
      simp only [beq_self_eq_true, if_true, Option.map_none, reduceCtorEq, false_iff]
      rintro ⟨m, hm⟩
      split at hm
      · next h => have := f.slot_unique hn hm; omega
      · next h => have := f.slot_unique hn hm; omega
    · simp only [beq_iff_eq, hkk, if_false, Option.map_eq_some_iff]
      constructor
      · rintro ⟨s, hs, rfl⟩
        obtain ⟨m, hm⟩ := (f.index_eq_some_iff k' s).1 hs
        have hne : s ≠ i := by
          rintro rfl
          rw [hn] at hm
          exact hkk (Prod.mk.inj (Option.some.inj hm)).1
        refine ⟨m, ?_⟩
        unfold slotAfter
        by_cases h : i < s
        · rw [if_pos h, if_neg (by omega), Nat.sub_add_cancel (by omega)]
          exact hm
        · rw [if_neg h, if_pos (by omega)]
          exact hm
      · rintro ⟨m, hm⟩
        split at hm
        · next h =>
          exact ⟨j, (f.index_eq_some_iff k' j).2 ⟨m, hm⟩, by
            unfold slotAfter; rw [if_neg (by omega)]⟩
        · next h =>
          exact ⟨j + 1, (f.index_eq_some_iff k' (j + 1)).2 ⟨m, hm⟩, by
            unfold slotAfter; rw [if_pos (by omega)]; omega⟩
  count_pos := by
    intro j k' m h
    simp only [Array.eraseIdxIfInBounds] at h
    split at h
    · rw [Array.getElem?_eraseIdx] at h
      split at h <;> exact f.count_pos h
    · exact f.count_pos h

/-- Takes a key out and gives its count. The other entries keep their order. -/
def remove (f : Frequency K) (k : K) : Option Nat × Frequency K :=
  match hk : f.index[k]? with
  | some i => (some (f.get k), f.eraseSlot k i hk)
  | none => (none, f)

/-- Lowers the entry in slot `i` by less than its count. -/
def lowerAt (f : Frequency K) (i n : Nat)
    (hn : ∀ (k : K) (m : Nat), f.entries[i]? = some (k, m) → n < m) : Frequency K where
  entries := f.entries.modify i fun e => (e.1, e.2 - n)
  index := f.index
  index_eq_some_iff := by
    intro k j
    rw [f.index_eq_some_iff, Array.getElem?_modify]
    split
    · constructor
      · rintro ⟨m, hm⟩; exact ⟨m - n, by simp [hm]⟩
      · rintro ⟨m, hm⟩
        simp only [Option.map_eq_some_iff, Prod.mk.injEq] at hm
        obtain ⟨⟨k', m'⟩, he, rfl, -⟩ := hm
        exact ⟨m', he⟩
    · rfl
  count_pos := by
    intro j k m h
    rw [Array.getElem?_modify] at h
    split at h
    · next hij =>
      subst hij
      simp only [Option.map_eq_some_iff, Prod.mk.injEq] at h
      obtain ⟨⟨k', m'⟩, he, -, rfl⟩ := h
      have := hn k' m' he
      omega
    · exact f.count_pos h

/-- Takes up to `n` occurrences of a key away and says how many. A key whose count would become
zero is removed. -/
def subtract (f : Frequency K) (k : K) (n : Nat) : Nat × Frequency K :=
  match hk : f.index[k]? with
  | none => (0, f)
  | some i =>
    if h : n < f.get k then
      (n, f.lowerAt i n fun k' m he => by
        obtain ⟨m', hm'⟩ := (f.index_eq_some_iff k i).1 hk
        obtain rfl : m' = m := by rw [hm'] at he; exact (Prod.mk.inj (Option.some.inj he)).2
        simpa [get, hk, hm'] using h)
    else (f.get k, f.eraseSlot k i hk)

/-- The entries whose keys pass a test, in their order. -/
def filter (f : Frequency K) (keep : K → Bool) : Frequency K :=
  ofPairs (f.toList.filter fun e => keep e.1)

/-! ## Ranking -/

/-- The `n` highest counts, highest first; equal counts stay in first-seen order. -/
def mostCommon (f : Frequency K) (n : Nat) : List (K × Nat) :=
  -- A merge sort keeps the order of what it does not tell apart, here of equal counts.
  (f.toList.mergeSort fun a b => b.2 ≤ a.2).take n

end Frequency

end TexCensus
