import Mathlib.Algebra.GroupWithZero.Nat
import TexCensus.Proofs.Frequency.Count

/-!
# Merging tables

The entries of a table stand for the list that was counted: adding them to another table, under the
same keys or under others, gives what adding the members of the list one by one gives, first-seen
order included (`Ledger.addAll_relabel_addAll`). So a list can be counted in parts
(`Frequency.count_flatten`), and the image of a list can be counted from the counts of the list
(`Frequency.count_map`).

The reason is that an addition to a key that is already there can wait: it changes a count in its
place and nothing else (`Ledger.addAll_add_of_mem`).
-/

namespace TexCensus

variable {K J : Type}

/-! ## First places in lists -/

/-- What is read from a list, up to one of its members, is read in front of where that is read. -/
theorem exists_of_filterMap_eq_append_cons {read? : K → Option J} {items : List K} {j : J}
    {front behind : List J} (h : items.filterMap read? = front ++ j :: behind) :
    ∃ passed item rest, items = passed ++ item :: rest ∧ read? item = some j
      ∧ passed.filterMap read? = front := by
  obtain ⟨passed, others, rfl, rfl, hothers⟩ := List.filterMap_eq_append_iff.1 h
  obtain ⟨between, item, rest, rfl, hbetween, hitem, -⟩ := List.filterMap_eq_cons_iff.1 hothers
  refine ⟨passed ++ between, item, rest, by rw [List.append_assoc], hitem, ?_⟩
  rw [List.filterMap_append, List.filterMap_eq_nil_iff.2 hbetween, List.append_nil]

/-- Of two members of a list whose first places are in order, the second one does not stand in front
of the first one. -/
theorem exists_append_of_pair_sublist_eraseDups [DecidableEq K] {items : List K} {a b : K}
    (h : [a, b].Sublist items.eraseDups) :
    ∃ front behind, items = front ++ a :: behind ∧ b ∉ front := by
  induction hn : items.length using Nat.strongRecOn generalizing items with
  | _ size ih =>
    cases items with
    | nil => simp at h
    | cons c items =>
      rw [List.eraseDups_cons] at h
      rw [List.length_cons] at hn
      by_cases hc : c = a
      · exact ⟨[], items, by rw [hc]; rfl, List.not_mem_nil⟩
      · -- Without the copies of the first member, the two stand in the same order.
        have hothers : [a, b].Sublist (items.filter (!· == c)).eraseDups := by
          cases h with
          | cons _ h => exact h
          | cons_cons _ h => exact absurd rfl hc
        have hb : b ≠ c := by
          have hmem := List.mem_eraseDups.1 (hothers.subset (by simp : b ∈ [a, b]))
          simpa using (List.mem_filter.1 hmem).2
        have hlength := List.length_filter_le (!· == c) items
        obtain ⟨front, behind, hfilter, hfront⟩ := ih _ (by omega) hothers rfl
        rw [← List.filterMap_eq_filter] at hfilter
        obtain ⟨passed, item, rest, rfl, hitem, rfl⟩ := exists_of_filterMap_eq_append_cons hfilter
        obtain ⟨rfl, -⟩ := Option.guard_eq_some_iff.1 hitem
        refine ⟨c :: passed, rest, rfl, ?_⟩
        rw [List.filterMap_eq_filter, List.mem_filter] at hfront
        rw [List.mem_cons, not_or]
        exact ⟨hb, fun hmem => hfront ⟨hmem, by simpa using hb⟩⟩

namespace Ledger

/-- The entries under the keys that a map gives them. -/
def relabel (g : K → J) (l : Ledger K) : Ledger J :=
  l.map fun e => (g e.1, e.2)

theorem relabel_id (l : Ledger K) : relabel id l = l :=
  List.map_id l

variable [DecidableEq K] [DecidableEq J]

/-! ## Additions that can wait -/

theorem mem_keys_add {k k' : K} {n : Nat} {l : Ledger K} :
    k' ∈ keys (add k n l) ↔ k' ∈ keys l ∨ (k' = k ∧ 0 < n) := by
  unfold add
  split
  · next h => simp [h]
  · next h =>
    have hn : 0 < n := Nat.pos_of_ne_zero h
    induction l with
    | nil => simp [increase, hn]
    | cons e l ih =>
      by_cases he : e.1 = k
      · simp only [increase, he, if_true, keys_cons, List.mem_cons]
        grind
      · simp only [increase, he, if_false, keys_cons, List.mem_cons, ih]
        grind

/-- Two additions to one key are one. -/
theorem add_add (k : K) (m n : Nat) (l : Ledger K) : add k n (add k m l) = add k (m + n) l := by
  by_cases hm : m = 0
  · simp [add, hm]
  by_cases hn : n = 0
  · simp [add, hn]
  simp only [add, hm, hn, if_false, Nat.add_eq_zero_iff, false_and]
  induction l with
  | nil => simp [increase]
  | cons e l ih =>
    by_cases he : e.1 = k
    · simp [increase, he, Nat.add_assoc]
    · simp [increase, he, ih]

/-- An addition to a key that is there commutes with any other addition. -/
theorem add_comm_of_mem {k : K} {l : Ledger K} (hk : k ∈ keys l) (k' : K) (m n : Nat) :
    add k' m (add k n l) = add k n (add k' m l) := by
  by_cases hm : m = 0
  · simp [add, hm]
  by_cases hn : n = 0
  · simp [add, hn]
  simp only [add, hm, hn, if_false]
  induction l with
  | nil => simp at hk
  | cons e l ih =>
    by_cases he : e.1 = k
    · by_cases he' : e.1 = k'
      · simp [increase, he, ← he', Nat.add_right_comm]
      · rw [he] at he'
        simp [increase, he, he']
    · have hk : k ∈ keys l := by
        rw [keys_cons, List.mem_cons] at hk
        exact hk.resolve_left (Ne.symm he)
      by_cases he' : e.1 = k'
      · rw [he'] at he
        simp [increase, he, he']
      · simp [increase, he, he', ih hk]

/-- An addition to a key that is there can wait until other pairs are added. -/
theorem addAll_add_of_mem {k : K} {l : Ledger K} (hk : k ∈ keys l) (n : Nat)
    (pairs : List (K × Nat)) : addAll (add k n l) pairs = add k n (addAll l pairs) := by
  induction pairs generalizing l with
  | nil => rfl
  | cons e pairs ih =>
    have hk' : k ∈ keys (add e.1 e.2 l) := mem_keys_add.2 (.inl hk)
    show addAll (add e.1 e.2 (add k n l)) pairs = add k n (addAll (add e.1 e.2 l) pairs)
    rw [add_comm_of_mem hk, ih hk']

/-! ## Entries under other keys -/

theorem count_pos_add {l : Ledger K} (hl : ∀ e ∈ l, 0 < e.2) (k : K) (n : Nat) :
    ∀ e ∈ add k n l, 0 < e.2 := by
  unfold add
  split
  · exact hl
  · next hn =>
    induction l with
    | nil => simp [increase]; omega
    | cons e l ih =>
      rw [List.forall_mem_cons] at hl
      by_cases he : e.1 = k
      · simp only [increase, he, if_true, List.forall_mem_cons]
        exact ⟨Nat.add_pos_left hl.1 n, hl.2⟩
      · simp only [increase, he, if_false, List.forall_mem_cons]
        exact ⟨hl.1, ih hl.2⟩

/-- Adding the entries of a ledger in which a key was increased is adding its entries and then
increasing the key. -/
theorem addAll_relabel_add (g : K → J) (l : Ledger J) {m : Ledger K} (hm : ∀ e ∈ m, 0 < e.2)
    (k : K) (n : Nat) :
    addAll l (relabel g (add k n m)) = add (g k) n (addAll l (relabel g m)) := by
  by_cases hn : n = 0
  · simp [add, hn]
  rw [add, if_neg hn]
  induction m generalizing l with
  | nil => rfl
  | cons e m ih =>
    rw [List.forall_mem_cons] at hm
    by_cases he : e.1 = k
    · have hthere : g k ∈ keys (add (g k) e.2 l) := mem_keys_add.2 (.inr ⟨rfl, hm.1⟩)
      have hleft : relabel g (increase k n (e :: m)) = (g k, e.2 + n) :: relabel g m := by
        simp [increase, relabel, he]
      have hright : relabel g (e :: m) = (g k, e.2) :: relabel g m := by simp [relabel, he]
      rw [hleft, hright]
      show addAll (add (g k) (e.2 + n) l) (relabel g m)
        = add (g k) n (addAll (add (g k) e.2 l) (relabel g m))
      rw [← add_add, addAll_add_of_mem hthere]
    · have hleft : relabel g (increase k n (e :: m))
          = (g e.1, e.2) :: relabel g (increase k n m) := by
        simp [increase, relabel, he]
      rw [hleft]
      exact ih (add (g e.1) e.2 l) hm.2

/-- **The entries of a ledger stand for the pairs that were added to it.** -/
theorem addAll_relabel_addAll (g : K → J) (l : Ledger J) {m : Ledger K} (hm : ∀ e ∈ m, 0 < e.2)
    (pairs : List (K × Nat)) :
    addAll l (relabel g (addAll m pairs))
      = addAll (addAll l (relabel g m)) (relabel g pairs) := by
  induction pairs generalizing m with
  | nil => rfl
  | cons e pairs ih =>
    show addAll l (relabel g (addAll (add e.1 e.2 m) pairs)) = _
    rw [ih (count_pos_add hm e.1 e.2), addAll_relabel_add g l hm]
    rfl

/-! ## Sums of pairs -/

/-- Each pair brings its count to its key. -/
theorem get_addAll (k : K) (l : Ledger K) (pairs : List (K × Nat)) :
    get k (addAll l pairs) = get k l + ((pairs.filter fun e => e.1 = k).map Prod.snd).sum := by
  induction pairs generalizing l with
  | nil => rfl
  | cons e pairs ih =>
    show get k (addAll (add e.1 e.2 l) pairs) = _
    rw [ih, get_add]
    by_cases he : e.1 = k
    · simp [he, Nat.add_assoc]
    · simp [he]

theorem keys_increase_of_mem {k : K} {n : Nat} {l : Ledger K} (h : k ∈ keys l) :
    keys (increase k n l) = keys l := by
  induction l with
  | nil => cases h
  | cons e l ih =>
    by_cases he : e.1 = k
    · simp [increase, he]
    · have hl : k ∈ keys l := by simpa [Ne.symm he] using h
      simp [increase, he, ih hl]

/-- Keys stand in the order of their first pairs that are not zero. -/
theorem keys_addAll (l : Ledger K) (pairs : List (K × Nat)) :
    keys (addAll l pairs) = keys l ++ (((pairs.filter fun e => 0 < e.2).map Prod.fst).filter
      fun k => k ∉ keys l).eraseDups := by
  induction pairs generalizing l with
  | nil => simp [addAll]
  | cons e pairs ih =>
    show keys (addAll (add e.1 e.2 l) pairs) = _
    rw [ih]
    unfold add
    by_cases hn : e.2 = 0
    · simp [hn]
    · have hpos : 0 < e.2 := Nat.pos_of_ne_zero hn
      by_cases hk : e.1 ∈ keys l
      · simp [hn, hpos, hk, keys_increase_of_mem hk]
      · have hother (k : K) : (!k == e.1 && !decide (k ∈ keys l))
            = (!decide (k ∈ keys l) && !decide (k = e.1)) := Bool.and_comm _ _
        rw [if_neg hn, increase_of_not_mem hk]
        simp [hpos, hk, List.eraseDups_cons, List.filter_filter, hother]

/-- Entries with distinct keys bring each key its count. -/
theorem get_addAll_of_nodup (k : K) (l : Ledger K) {m : Ledger K} (hm : (keys m).Nodup) :
    get k (addAll l m) = get k l + get k m := by
  induction m generalizing l with
  | nil => rfl
  | cons e m ih =>
    rw [keys_cons, List.nodup_cons] at hm
    show get k (addAll (add e.1 e.2 l) m) = _
    rw [ih _ hm.2, get_add, get]
    by_cases he : e.1 = k
    · subst he
      simp [get_of_not_mem hm.1]
    · simp [he]

end Ledger

namespace Frequency

variable [DecidableEq K] [DecidableEq J] [Hashable K] [Hashable J]

/-! ## Sums of pairs -/

/-- A table sums pairs: each key that has a count stands in it once, in the order of the first pairs
that are not zero, with the sum of its counts. -/
structure SumOf (f : Frequency K) (pairs : List (K × Nat)) : Prop where
  /-- No key stands twice. -/
  keys_nodup : f.keys.Nodup
  /-- No count is zero. -/
  count_pos : ∀ e ∈ f.toList, 0 < e.2
  /-- The keys are in the order of their first pairs that are not zero. -/
  keys_eq : f.keys = ((pairs.filter fun e => 0 < e.2).map Prod.fst).eraseDups
  /-- A key has the sum of its counts. -/
  get_eq : ∀ k, f.get k = ((pairs.filter fun e => e.1 = k).map Prod.snd).sum

/-- **The table of pairs sums them.** -/
theorem sumOf_ofPairs (pairs : List (K × Nat)) : (ofPairs pairs).SumOf pairs where
  keys_nodup := (ofPairs pairs).wellFormed.keys_nodup
  count_pos := (ofPairs pairs).wellFormed.count_pos
  keys_eq := by
    have h := Ledger.keys_addAll [] pairs
    rw [← toList_ofPairs] at h
    show Ledger.keys (ofPairs pairs).toList = _
    simpa using h
  get_eq := by
    intro k
    rw [get_eq, toList_ofPairs, Ledger.get_addAll, Ledger.get, Nat.zero_add]

/-- **The keys of a list are counted in the order in which they come in it.** -/
theorem keys_count (items : List K) : (count items).keys = items.eraseDups := by
  have hkeys := (sumOf_ofPairs (items.map fun k => (k, 1))).keys_eq
  rw [List.filter_eq_self.2 (by simp), List.map_map, ← count_eq_ofPairs] at hkeys
  exact hkeys.trans (congrArg List.eraseDups (List.map_id' items))

/-- Of two keys that are counted one after the other, the second one does not stand in front of the
first one in the list. -/
theorem exists_append_of_pair_sublist_keys {items : List K} {a b : K}
    (h : [a, b].Sublist (count items).keys) :
    ∃ front behind, items = front ++ a :: behind ∧ b ∉ front := by
  rw [keys_count] at h
  exact exists_append_of_pair_sublist_eraseDups h

/-! ## Counting in parts -/

/-- The table to which the entries of tables are added one table after another. -/
def merge (tables : List (Frequency K)) : Frequency K :=
  tables.foldl (fun f g => f.addAll g.toList) ∅

/-- Adding the entries of the table of a list is adding its members one by one. -/
theorem addAll_toList_count (f : Frequency K) (items : List K) :
    f.addAll (count items).toList = f.addAll (items.map fun k => (k, 1)) := by
  apply ext
  have h := Ledger.addAll_relabel_addAll id f.toList (m := []) (by simp)
    (items.map fun k => (k, 1))
  simp only [Ledger.relabel_id] at h
  rw [toList_addAll, toList_addAll, toList_count, h]
  rfl

theorem addAll_append (f : Frequency K) (xs ys : List (K × Nat)) :
    f.addAll (xs ++ ys) = (f.addAll xs).addAll ys :=
  List.foldl_append

/-- **A list can be counted in parts.** -/
theorem count_flatten (parts : List (List K)) :
    count parts.flatten = merge (parts.map count) := by
  rw [count_eq_ofPairs, ofPairs, merge, List.foldl_map]
  show (∅ : Frequency K).addAll _ = _
  generalize (∅ : Frequency K) = f
  induction parts generalizing f with
  | nil => rfl
  | cons part parts ih =>
    rw [List.flatten_cons, List.map_append, addAll_append, ih, List.foldl_cons,
      addAll_toList_count]

theorem get_addAll_toList (f g : Frequency K) (k : K) :
    (f.addAll g.toList).get k = f.get k + g.get k := by
  rw [get_eq, get_eq, get_eq, toList_addAll]
  exact Ledger.get_addAll_of_nodup k f.toList g.wellFormed.keys_nodup

/-- A merged table counts a key as often as all the tables together. -/
theorem get_merge (tables : List (Frequency K)) (k : K) :
    (merge tables).get k = (tables.map fun f => f.get k).sum := by
  have hfold (f : Frequency K) : (tables.foldl (fun f g => f.addAll g.toList) f).get k
      = f.get k + (tables.map fun f => f.get k).sum := by
    induction tables generalizing f with
    | nil => simp
    | cons g tables ih =>
      rw [List.foldl_cons, ih, get_addAll_toList, List.map_cons, List.sum_cons, Nat.add_assoc]
  have hnone : (∅ : Frequency K).get k = 0 := by
    rw [get_eq]
    rfl
  rw [merge, hfold, hnone, Nat.zero_add]

/-! ## Counting images -/

/-- **The image of a list can be counted from the counts of the list.** Each entry brings its
count to the image of its key, in the order of the entries. -/
theorem count_map (g : K → J) (items : List K) :
    count (items.map g) = ofPairs ((count items).toList.map fun e => (g e.1, e.2)) := by
  apply ext
  have h := Ledger.addAll_relabel_addAll g [] (m := []) (by simp) (items.map fun k => (k, 1))
  rw [toList_count, toList_ofPairs, toList_count]
  refine Eq.trans ?_ h.symm
  simp only [Ledger.relabel, List.map_map, List.map_nil]
  rfl

end Frequency

end TexCensus
