import TexCensus.Frequency.Basic
import TexCensus.Proofs.Frequency.Ledger

/-!
# Tables as ledgers

Every operation on a table is the operation of the same name on its list of entries. The bridge is
`Frequency.exists_split`: where the index gives a slot, the list of entries falls apart into what
stands before the slot, the entry itself and what stands behind it, and the key does not occur
before. From there on nothing speaks of slots.

The laws of counts, sums and order at the end are those of ledgers, read through the view. Later
modules cite them and do not open an operation again.
-/

namespace TexCensus.Frequency

variable {K : Type} [DecidableEq K] [Hashable K]

/-! ## Slots -/

theorem getElem?_toList (f : Frequency K) (i : Nat) : f.toList[i]? = f.entries[i]? :=
  Array.getElem?_toList

/-- **A slot of the index lies inside the entries.** -/
theorem slot_lt (f : Frequency K) {k : K} {i : Nat} (h : f.index[k]? = some i) :
    i < f.entries.size := by
  obtain ⟨n, hn⟩ := (f.index_eq_some_iff k i).1 h
  exact (Array.getElem?_eq_some_iff.1 hn).1

/-- The entries around the slot of a key. -/
theorem exists_split (f : Frequency K) {k : K} {i : Nat} (h : f.index[k]? = some i) :
    ∃ (pre : Ledger K) (n : Nat) (post : Ledger K),
      f.toList = pre ++ (k, n) :: post ∧ pre.length = i ∧ k ∉ Ledger.keys pre := by
  obtain ⟨n, hn⟩ := (f.index_eq_some_iff k i).1 h
  rw [← getElem?_toList] at hn
  obtain ⟨hi, he⟩ := List.getElem?_eq_some_iff.1 hn
  refine ⟨f.toList.take i, n, f.toList.drop (i + 1), ?_, by simp; omega, ?_⟩
  · rw [← he, ← List.drop_eq_getElem_cons hi, List.take_append_drop]
  · intro hk
    obtain ⟨⟨k', m⟩, hm, rfl⟩ := List.mem_map.1 hk
    obtain ⟨j, hj⟩ := List.mem_iff_getElem?.1 hm
    rw [List.getElem?_take] at hj
    split at hj
    · next hlt =>
      have hij : i = j := f.slot_unique (getElem?_toList f i ▸ hn) (getElem?_toList f j ▸ hj)
      omega
    · cases hj

theorem index_eq_none_iff_not_mem (f : Frequency K) (k : K) :
    f.index[k]? = none ↔ k ∉ Ledger.keys f.toList := by
  rw [index_eq_none_iff, Ledger.keys, List.mem_map]
  constructor
  · rintro h ⟨⟨k', n⟩, he, rfl⟩
    obtain ⟨i, hi⟩ := List.mem_iff_getElem?.1 he
    exact h i n (getElem?_toList f i ▸ hi)
  · intro h i n hi
    rw [← getElem?_toList] at hi
    exact h ⟨(k, n), List.mem_of_getElem? hi, rfl⟩

/-- **A table is a well-formed ledger.** -/
theorem wellFormed (f : Frequency K) : Ledger.WellFormed f.toList where
  keys_nodup := by
    rw [List.nodup_iff_getElem?_ne_getElem?]
    intro i j hij hj heq
    simp only [Ledger.keys, List.getElem?_map, List.length_map] at heq hj
    have hi : i < f.toList.length := by omega
    rw [List.getElem?_eq_getElem hi, List.getElem?_eq_getElem hj] at heq
    simp only [Option.map_some, Option.some.injEq] at heq
    have hsi : f.entries[i]? = some (f.toList[i].1, f.toList[i].2) := by
      rw [← getElem?_toList, List.getElem?_eq_getElem hi]
    have hsj : f.entries[j]? = some (f.toList[i].1, f.toList[j].2) := by
      rw [← getElem?_toList, List.getElem?_eq_getElem hj, heq]
    have := f.slot_unique hsi hsj
    omega
  count_pos := by
    intro e he
    obtain ⟨i, hi⟩ := List.mem_iff_getElem?.1 he
    exact f.count_pos (getElem?_toList f i ▸ hi)

/-! ## Observations -/

theorem get_eq (f : Frequency K) (k : K) : f.get k = Ledger.get k f.toList := by
  unfold get
  split
  · next i hi =>
    obtain ⟨pre, n, post, hl, hlen, hpre⟩ := f.exists_split hi
    rw [← getElem?_toList, hl, ← hlen, Ledger.get_append hpre]
    simp
  · next hk => rw [Ledger.get_of_not_mem ((f.index_eq_none_iff_not_mem k).1 hk)]

theorem contains_eq (f : Frequency K) (k : K) : f.contains k = Ledger.contains k f.toList := by
  rw [Bool.eq_iff_iff, Ledger.contains_iff, ← Decidable.not_iff_not,
    ← f.index_eq_none_iff_not_mem k]
  simp [contains]

theorem size_eq (f : Frequency K) : f.size = f.toList.length := by
  simp [size, toList]

theorem isEmpty_eq (f : Frequency K) : f.isEmpty = f.toList.isEmpty := by
  simp [isEmpty, toList, Array.isEmpty_toList]

theorem total_eq (f : Frequency K) : f.total = Ledger.total f.toList := by
  unfold total
  induction f.toList with
  | nil => rfl
  | cons e l ih => rw [List.foldr_cons, Ledger.total_cons, ih]

/-! ## Operations -/

@[simp] theorem toList_add (f : Frequency K) (k : K) (n : Nat) :
    (f.add k n).toList = Ledger.add k n f.toList := by
  unfold add Ledger.add
  by_cases hn : n = 0
  · simp [hn]
  · rw [dif_neg hn, if_neg hn]
    split
    · next i hi =>
      obtain ⟨pre, m, post, hl, rfl, hpre⟩ := f.exists_split hi
      have hmod : (f.increaseAt pre.length n).toList
          = f.toList.modify pre.length fun e => (e.1, e.2 + n) := by
        simp [increaseAt, toList]
      rw [hmod, hl, Ledger.modify_append, Ledger.increase_append hpre]
    · next hk =>
      rw [Ledger.increase_of_not_mem ((f.index_eq_none_iff_not_mem k).1 hk)]
      simp [push, toList]

theorem toList_eraseSlot (f : Frequency K) {k : K} {i : Nat} (h : f.index[k]? = some i) :
    (f.eraseSlot k i h).toList = Ledger.erase k f.toList := by
  obtain ⟨pre, n, post, hl, rfl, hpre⟩ := f.exists_split h
  have hidx : (f.eraseSlot k pre.length h).toList = f.toList.eraseIdx pre.length := by
    simp [eraseSlot, toList]
  rw [hidx, hl, Ledger.erase_append hpre, List.eraseIdx_append_of_length_le (Nat.le_refl _)]
  simp

theorem remove_eq (f : Frequency K) (k : K) :
    ((f.remove k).1, (f.remove k).2.toList) = Ledger.remove k f.toList := by
  unfold remove Ledger.remove
  split
  · next i hi =>
    have hmem : Ledger.contains k f.toList = true := by
      rw [← contains_eq, contains, ← Std.ExtHashMap.isSome_getElem?_eq_contains, hi]
      rfl
    rw [if_pos hmem, toList_eraseSlot, get_eq]
  · next hk =>
    have hmem : ¬Ledger.contains k f.toList = true := by
      rw [Ledger.contains_iff]
      exact (f.index_eq_none_iff_not_mem k).1 hk
    rw [if_neg hmem]

theorem subtract_eq (f : Frequency K) (k : K) (n : Nat) :
    ((f.subtract k n).1, (f.subtract k n).2.toList) = Ledger.subtract k n f.toList := by
  unfold subtract Ledger.subtract
  split
  · next hk =>
    have hmem := (f.index_eq_none_iff_not_mem k).1 hk
    rw [Ledger.get_of_not_mem hmem, Ledger.take_of_not_mem hmem, Nat.min_zero]
  · next i hi =>
    obtain ⟨pre, m, post, hl, rfl, hpre⟩ := f.exists_split hi
    have hget : f.get k = m := by rw [get_eq, hl, Ledger.get_append hpre]
    rw [← get_eq]
    split
    · next hlt =>
      have hmod (hn) : (f.lowerAt pre.length n hn).toList
          = f.toList.modify pre.length fun e => (e.1, e.2 - n) := by
        simp [lowerAt, toList]
      rw [hmod, hl, Ledger.modify_append, Ledger.take_append hpre, if_neg (by omega),
        Nat.min_eq_left (by omega)]
    · next hge =>
      rw [toList_eraseSlot, hl, Ledger.erase_append hpre, Ledger.take_append hpre,
        if_pos (by omega), Nat.min_eq_right (by omega)]

theorem toList_addAll (f : Frequency K) (pairs : List (K × Nat)) :
    (f.addAll pairs).toList = Ledger.addAll f.toList pairs := by
  unfold addAll Ledger.addAll
  induction pairs generalizing f with
  | nil => rfl
  | cons e pairs ih => rw [List.foldl_cons, List.foldl_cons, ih, toList_add]

theorem toList_ofPairs (pairs : List (K × Nat)) :
    (ofPairs pairs).toList = Ledger.addAll [] pairs :=
  toList_addAll ∅ pairs

/-- Counting a list adds each of its members once. -/
theorem count_eq_ofPairs (items : List K) : count items = ofPairs (items.map fun k => (k, 1)) := by
  unfold count ofPairs addAll
  rw [List.foldl_map]
  rfl

theorem toList_count (items : List K) :
    (count items).toList = Ledger.addAll [] (items.map fun k => (k, 1)) := by
  rw [count_eq_ofPairs, toList_ofPairs]

/-- **Pairs with distinct keys and no zero are the entries of their table.** -/
theorem toList_ofPairs_of_wellFormed {l : Ledger K} (hl : l.WellFormed) :
    (ofPairs l).toList = l := by
  rw [toList_ofPairs]
  exact Ledger.addAll_of_wellFormed (l := []) hl

@[simp] theorem toList_filter (f : Frequency K) (keep : K → Bool) :
    (f.filter keep).toList = f.toList.filter fun e => keep e.1 :=
  toList_ofPairs_of_wellFormed (f.wellFormed.sublist List.filter_sublist)

/-! ## Laws of counts and sums -/

/-- The keys of a table are those with a count. -/
theorem mem_keys_iff (f : Frequency K) (k : K) : k ∈ f.keys ↔ 0 < f.get k := by
  rw [get_eq]
  constructor
  · intro hk
    obtain ⟨e, he, rfl⟩ := List.mem_map.1 hk
    rw [Ledger.get_of_mem f.wellFormed.keys_nodup he]
    exact f.wellFormed.count_pos e he
  · intro hk
    by_contra hn
    rw [Ledger.get_of_not_mem hn] at hk
    omega

theorem contains_iff (f : Frequency K) (k : K) : f.contains k = true ↔ 0 < f.get k := by
  rw [contains_eq, Ledger.contains_iff, ← mem_keys_iff]
  rfl

theorem not_mem_keys (f : Frequency K) {k : K} (h : f.get k = 0) : k ∉ Ledger.keys f.toList :=
  f.wellFormed.not_mem_keys (by rwa [← get_eq])

theorem get_add (f : Frequency K) (k k' : K) (n : Nat) :
    (f.add k n).get k' = f.get k' + if k = k' then n else 0 := by
  rw [get_eq, get_eq, toList_add, Ledger.get_add]

theorem total_add (f : Frequency K) (k : K) (n : Nat) : (f.add k n).total = f.total + n := by
  rw [total_eq, total_eq, toList_add, Ledger.total_add]

theorem fst_remove (f : Frequency K) (k : K) :
    (f.remove k).1 = if f.get k = 0 then none else some (f.get k) := by
  have h := congrArg Prod.fst (f.remove_eq k)
  simp only at h
  rw [h, Ledger.remove, ← get_eq]
  by_cases hk : k ∈ f.keys
  · rw [if_pos (Ledger.contains_iff.2 hk), if_neg (Nat.ne_of_gt ((f.mem_keys_iff k).1 hk))]
  · have hz : f.get k = 0 := by rw [get_eq, Ledger.get_of_not_mem hk]
    rw [if_neg (fun hc => hk (Ledger.contains_iff.1 hc)), if_pos hz]

theorem toList_remove (f : Frequency K) (k : K) :
    (f.remove k).2.toList = Ledger.erase k f.toList := by
  have h := congrArg Prod.snd (f.remove_eq k)
  simp only at h
  rw [h, Ledger.remove]
  split
  · rfl
  · next hc => rw [Ledger.erase_of_not_mem (fun hk => hc (Ledger.contains_iff.2 hk))]

theorem fst_subtract (f : Frequency K) (k : K) (n : Nat) :
    (f.subtract k n).1 = min n (f.get k) := by
  rw [get_eq]
  exact congrArg Prod.fst (f.subtract_eq k n)

theorem toList_subtract (f : Frequency K) (k : K) (n : Nat) :
    (f.subtract k n).2.toList = Ledger.take k n f.toList :=
  congrArg Prod.snd (f.subtract_eq k n)

theorem get_remove (f : Frequency K) (k k' : K) :
    (f.remove k).2.get k' = if k = k' then 0 else f.get k' := by
  rw [get_eq, get_eq, toList_remove, Ledger.get_erase k k' f.wellFormed.keys_nodup]

theorem total_remove (f : Frequency K) (k : K) : (f.remove k).2.total + f.get k = f.total := by
  rw [total_eq, total_eq, get_eq, toList_remove, Ledger.total_erase]

theorem get_subtract (f : Frequency K) (k k' : K) (n : Nat) :
    (f.subtract k n).2.get k' = f.get k' - if k = k' then n else 0 := by
  rw [get_eq, get_eq, toList_subtract, Ledger.get_take k k' n f.wellFormed.keys_nodup]

theorem total_subtract (f : Frequency K) (k : K) (n : Nat) :
    (f.subtract k n).2.total + min n (f.get k) = f.total := by
  rw [total_eq, total_eq, get_eq, toList_subtract, Ledger.total_take]

end TexCensus.Frequency
