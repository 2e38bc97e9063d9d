import Mathlib.Algebra.GroupWithZero.Nat
import Mathlib.Data.Finset.Card
import TexCensus.Proofs.Frequency.View

/-!
# Counting lists

The table that counts a list gives every key the number of times it stands in the list
(`Frequency.get_count`), so its sum is the length of the list and its size the number of distinct
members. Counting commutes with filtering, first-seen order included (`Frequency.filter_count`).
-/

namespace TexCensus

variable {K : Type} [DecidableEq K]

/-! ## Adding many pairs -/

namespace Ledger

theorem total_addAll (l : Ledger K) (pairs : List (K × Nat)) :
    total (addAll l pairs) = total l + total pairs := by
  induction pairs generalizing l with
  | nil => rfl
  | cons e pairs ih =>
    rw [addAll, List.foldl_cons, ← addAll, ih, total_add, total_cons, Nat.add_assoc]

theorem get_addAll_ones (k : K) (l : Ledger K) (items : List K) :
    get k (addAll l (items.map fun k => (k, 1))) = get k l + items.count k := by
  induction items generalizing l with
  | nil => rfl
  | cons item items ih =>
    rw [List.map_cons, addAll, List.foldl_cons, ← addAll, ih, get_add, List.count_cons]
    simp only [beq_iff_eq]
    omega

/-- Adding a key that a test finds commutes with the test. -/
theorem filter_increase {p : K → Bool} {k : K} (hk : p k = true) (n : Nat) (l : Ledger K) :
    ((increase k n l).filter fun e => p e.1) = increase k n (l.filter fun e => p e.1) := by
  induction l with
  | nil => simp [increase, hk]
  | cons e l ih =>
    by_cases he : e.1 = k
    · subst he
      simp [increase, hk]
    · by_cases hp : p e.1 = true
      · simp [increase, he, hp, ih]
      · simp [increase, he, hp, ih]

theorem filter_addAll (p : K → Bool) (l : Ledger K) (pairs : List (K × Nat)) :
    ((addAll l pairs).filter fun e => p e.1)
      = addAll (l.filter fun e => p e.1) (pairs.filter fun e => p e.1) := by
  induction pairs generalizing l with
  | nil => rfl
  | cons e pairs ih =>
    rw [addAll, List.foldl_cons, ← addAll, ih, List.filter_cons]
    by_cases he : p e.1 = true
    · have hadd : ((add e.1 e.2 l).filter fun e => p e.1)
          = add e.1 e.2 (l.filter fun e => p e.1) := by
        unfold add
        split
        · rfl
        · exact filter_increase he e.2 l
      rw [if_pos he, hadd, addAll, addAll, List.foldl_cons]
    · rw [if_neg he, filter_add (Bool.eq_false_iff.2 he)]

end Ledger

/-! ## Counting -/

namespace Frequency

variable [Hashable K]

/-- **A list is counted key by key.** -/
theorem get_count (items : List K) (k : K) : (count items).get k = items.count k := by
  rw [get_eq, toList_count, Ledger.get_addAll_ones]
  exact Nat.zero_add _

/-- A key that is read off from items is counted as often as an item gives it. -/
theorem get_count_filterMap {I : Type} (read? : I → Option K) (items : List I) (k : K) :
    (count (items.filterMap read?)).get k = items.countP (read? · = some k) := by
  rw [get_count, List.count_filterMap]
  refine List.countP_congr fun item _ => ?_
  rw [beq_iff_eq, decide_eq_true_iff]

/-- Lists that are put together are counted one by one. -/
theorem get_count_flatMap {I : Type} (read : I → List K) (items : List I) (k : K) :
    (count (items.flatMap read)).get k = (items.map fun item => (count (read item)).get k).sum := by
  rw [get_count, List.count_flatMap]
  simp only [get_count, Function.comp_def]

/-- A key in front of copies of another one. -/
theorem get_count_cons_replicate {k other : K} (h : k ≠ other) (n : Nat) :
    (count (k :: List.replicate n other)).get k = 1
      ∧ (count (k :: List.replicate n other)).get other = n := by
  rw [get_count, get_count, List.count_cons_self, List.count_cons_of_ne h,
    List.count_replicate_self, List.count_replicate, if_neg (by simpa using h.symm)]
  exact ⟨rfl, rfl⟩

/-- A part of a list counts nothing more often. -/
theorem get_count_le {items others : List K} (h : items.Sublist others) (k : K) :
    (count items).get k ≤ (count others).get k := by
  rw [get_count, get_count]
  exact h.count_le k

theorem total_count (items : List K) : (count items).total = items.length := by
  rw [total_eq, toList_count, Ledger.total_addAll, Ledger.total_nil, Nat.zero_add]
  induction items with
  | nil => rfl
  | cons item items ih => rw [List.map_cons, Ledger.total_cons, ih, List.length_cons, Nat.add_comm]

theorem mem_keys_count {items : List K} {k : K} : k ∈ (count items).keys ↔ k ∈ items := by
  rw [mem_keys_iff, get_count, List.count_pos_iff]

/-- The size of a table that counts a list is the number of distinct members. -/
theorem size_count (items : List K) : (count items).size = items.toFinset.card := by
  have hkeys : (count items).keys.toFinset = items.toFinset := by
    ext k
    rw [List.mem_toFinset, List.mem_toFinset, mem_keys_count]
  have hnodup : (count items).keys.Nodup := (count items).wellFormed.keys_nodup
  rw [← hkeys, List.toFinset_card_of_nodup hnodup, size_eq, keys, List.length_map]

/-- **Counting what passes a test is the same as testing what was counted.** -/
theorem filter_count (keep : K → Bool) (items : List K) :
    (count items).filter keep = count (items.filter keep) := by
  apply ext
  rw [toList_filter, toList_count, toList_count, Ledger.filter_addAll, List.filter_nil,
    List.filter_map]
  rfl

theorem get_filter (f : Frequency K) (keep : K → Bool) (k : K) :
    (f.filter keep).get k = if keep k then f.get k else 0 := by
  rw [get_eq, get_eq, toList_filter]
  induction f.toList with
  | nil => simp [Ledger.get]
  | cons e l ih =>
    by_cases he : e.1 = k
    · subst he
      by_cases hk : keep e.1 = true
      · simp [Ledger.get, hk]
      · rw [List.filter_cons, if_neg hk, ih, if_neg hk, if_neg hk]
    · by_cases hk : keep e.1 = true
      · rw [List.filter_cons, if_pos hk, Ledger.get, if_neg he, ih, Ledger.get, if_neg he]
      · rw [List.filter_cons, if_neg hk, ih, Ledger.get, if_neg he]

/-- A filtered table counts no key more often. -/
theorem get_filter_le (f : Frequency K) (keep : K → Bool) (k : K) :
    (f.filter keep).get k ≤ f.get k := by
  rw [get_filter]
  split
  · exact Nat.le_refl _
  · exact Nat.zero_le _

end Frequency

end TexCensus
