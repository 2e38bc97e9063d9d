import Mathlib.Data.List.Nodup
import TexCensus.Frequency.Ledger

/-!
# Laws of ledgers

An operation changes one entry. `Ledger.filter_add` and its siblings say that the entries of all
other keys keep their counts and their order, and `Ledger.total_add` and its siblings what becomes of
the sum.
-/

namespace TexCensus

variable {K : Type}

namespace Ledger

/-- A part of a well-formed ledger is well formed. -/
theorem WellFormed.sublist {l m : Ledger K} (hl : l.WellFormed) (h : m.Sublist l) :
    m.WellFormed where
  keys_nodup := hl.keys_nodup.sublist (h.map Prod.fst)
  count_pos := fun e he => hl.count_pos e (h.subset he)

/-- A change at a place is a change of the entry that stands there. -/
theorem modify_append (pre post : Ledger K) (e : K × Nat) (g : K × Nat → K × Nat) :
    (pre ++ e :: post).modify pre.length g = pre ++ g e :: post := by
  rw [List.modify_eq_take_cons_drop (by simp)]
  simp

variable [DecidableEq K]

/-! ## Searching from the front -/

theorem contains_iff {k : K} {l : Ledger K} : contains k l = true ↔ k ∈ keys l := by
  induction l with
  | nil => simp [contains]
  | cons e l ih => simp [contains, ih, eq_comm (a := k)]

/-- What stands before the first entry of a key does not matter to a search for it. -/
theorem get_append {k : K} {n : Nat} {pre post : Ledger K} (h : k ∉ keys pre) :
    get k (pre ++ (k, n) :: post) = n := by
  induction pre with
  | nil => simp [get]
  | cons e pre ih =>
    simp only [keys_cons, List.mem_cons, not_or] at h
    simp [get, Ne.symm h.1, ih h.2]

theorem increase_append {k : K} {m n : Nat} {pre post : Ledger K} (h : k ∉ keys pre) :
    increase k n (pre ++ (k, m) :: post) = pre ++ (k, m + n) :: post := by
  induction pre with
  | nil => simp [increase]
  | cons e pre ih =>
    simp only [keys_cons, List.mem_cons, not_or] at h
    simp [increase, Ne.symm h.1, ih h.2]

theorem increase_of_not_mem {k : K} {n : Nat} {l : Ledger K} (h : k ∉ keys l) :
    increase k n l = l ++ [(k, n)] := by
  induction l with
  | nil => rfl
  | cons e l ih =>
    simp only [keys_cons, List.mem_cons, not_or] at h
    simp [increase, Ne.symm h.1, ih h.2]

/-- **Pairs with distinct keys and no zero are added as they stand.** -/
theorem addAll_of_wellFormed {l m : Ledger K} (h : WellFormed (l ++ m)) :
    addAll l m = l ++ m := by
  induction m generalizing l with
  | nil => simp [addAll]
  | cons e m ih =>
    have hpos : 0 < e.2 := h.count_pos e (by simp)
    have hnew : e.1 ∉ keys l := by
      have hkeys := h.keys_nodup
      rw [keys_append, List.nodup_append] at hkeys
      exact fun hk => hkeys.2.2 _ hk e.1 (by simp) rfl
    have hadd : add e.1 e.2 l = l ++ [e] := by
      rw [add, if_neg (by omega), increase_of_not_mem hnew]
    rw [List.append_cons] at h ⊢
    rw [← ih h, addAll, List.foldl_cons, hadd, addAll]

theorem erase_append {k : K} {n : Nat} {pre post : Ledger K} (h : k ∉ keys pre) :
    erase k (pre ++ (k, n) :: post) = pre ++ post := by
  induction pre with
  | nil => simp [erase]
  | cons e pre ih =>
    simp only [keys_cons, List.mem_cons, not_or] at h
    simp [erase, Ne.symm h.1, ih h.2]

theorem erase_of_not_mem {k : K} {l : Ledger K} (h : k ∉ keys l) : erase k l = l := by
  induction l with
  | nil => rfl
  | cons e l ih =>
    simp only [keys_cons, List.mem_cons, not_or] at h
    simp [erase, Ne.symm h.1, ih h.2]

theorem take_append {k : K} {m n : Nat} {pre post : Ledger K} (h : k ∉ keys pre) :
    take k n (pre ++ (k, m) :: post)
      = pre ++ if m ≤ n then post else (k, m - n) :: post := by
  induction pre with
  | nil => simp [take]
  | cons e pre ih =>
    simp only [keys_cons, List.mem_cons, not_or] at h
    simp [take, Ne.symm h.1, ih h.2]

theorem take_of_not_mem {k : K} {n : Nat} {l : Ledger K} (h : k ∉ keys l) : take k n l = l := by
  induction l with
  | nil => rfl
  | cons e l ih =>
    simp only [keys_cons, List.mem_cons, not_or] at h
    simp [take, Ne.symm h.1, ih h.2]

/-- Taking nothing away leaves a ledger without zeros as it is. -/
theorem take_zero (k : K) {l : Ledger K} (h : ∀ e ∈ l, 0 < e.2) : take k 0 l = l := by
  induction l with
  | nil => rfl
  | cons e l ih =>
    have he : ¬e.2 ≤ 0 := Nat.not_le.2 (h e (by simp))
    by_cases hk : e.1 = k
    · subst hk
      simp [take, he]
    · simp [take, hk, ih fun e' he' => h e' (by simp [he'])]

/-- A key that is absent counts zero. -/
theorem get_of_not_mem {k : K} {l : Ledger K} (h : k ∉ keys l) : get k l = 0 := by
  induction l with
  | nil => rfl
  | cons e l ih =>
    simp only [keys_cons, List.mem_cons, not_or] at h
    simp [get, Ne.symm h.1, ih h.2]

/-- In a well-formed ledger the count of an entry is the count of its key. -/
theorem get_of_mem {e : K × Nat} {l : Ledger K} (hl : (keys l).Nodup) (he : e ∈ l) :
    get e.1 l = e.2 := by
  obtain ⟨pre, post, rfl⟩ := List.append_of_mem he
  rw [keys_append, List.nodup_append] at hl
  exact get_append fun hk => hl.2.2 _ hk _ (by simp) rfl

/-- A key without a count is absent from a ledger without zeros. -/
theorem WellFormed.not_mem_keys {k : K} {l : Ledger K} (hl : l.WellFormed) (h : get k l = 0) :
    k ∉ keys l := by
  intro hk
  obtain ⟨e, he, rfl⟩ := List.mem_map.1 hk
  have hpos := hl.count_pos e he
  rw [get_of_mem hl.keys_nodup he] at h
  omega

/-! ## Counts after an operation -/

theorem get_increase (k k' : K) (n : Nat) (l : Ledger K) :
    get k' (increase k n l) = get k' l + if k = k' then n else 0 := by
  induction l with
  | nil => by_cases h : k = k' <;> simp [increase, get, h]
  | cons e l ih =>
    by_cases he : e.1 = k
    · subst he
      by_cases h : e.1 = k' <;> simp [increase, get, h]
    · by_cases h : e.1 = k'
      · subst h
        simp [increase, get, he, Ne.symm he]
      · simp [increase, get, he, h, ih]

theorem get_add (k k' : K) (n : Nat) (l : Ledger K) :
    get k' (add k n l) = get k' l + if k = k' then n else 0 := by
  unfold add
  split
  · next h => simp [h]
  · exact get_increase k k' n l

theorem total_add (k : K) (n : Nat) (l : Ledger K) : total (add k n l) = total l + n := by
  unfold add
  split
  · next h => simp [h]
  · induction l with
    | nil => simp [increase]
    | cons e l ih =>
      by_cases he : e.1 = k
      · simp [increase, he]; omega
      · simp [increase, he, ih]; omega

theorem get_erase (k k' : K) {l : Ledger K} (hl : (keys l).Nodup) :
    get k' (erase k l) = if k = k' then 0 else get k' l := by
  induction l with
  | nil => simp [erase, get]
  | cons e l ih =>
    rw [keys_cons, List.nodup_cons] at hl
    by_cases he : e.1 = k
    · subst he
      by_cases h : e.1 = k'
      · subst h
        simp [erase, get_of_not_mem hl.1]
      · simp [erase, get, h]
    · by_cases h : e.1 = k'
      · subst h
        simp [erase, get, he, Ne.symm he]
      · simp [erase, get, he, h, ih hl.2]

theorem total_erase (k : K) (l : Ledger K) : total (erase k l) + get k l = total l := by
  induction l with
  | nil => simp [erase, get]
  | cons e l ih =>
    by_cases he : e.1 = k
    · simp [erase, get, he]; omega
    · simp only [erase, get, he, if_false, total_cons]; omega

theorem get_take (k k' : K) (n : Nat) {l : Ledger K} (hl : (keys l).Nodup) :
    get k' (take k n l) = get k' l - if k = k' then n else 0 := by
  induction l with
  | nil => simp [take, get]
  | cons e l ih =>
    rw [keys_cons, List.nodup_cons] at hl
    by_cases he : e.1 = k
    · subst he
      by_cases h : e.1 = k'
      · subst h
        by_cases hn : e.2 ≤ n
        · simp [take, get, hn, get_of_not_mem hl.1]
        · simp [take, get, hn]
      · by_cases hn : e.2 ≤ n <;> simp [take, get, hn, h]
    · by_cases h : e.1 = k'
      · subst h
        simp [take, get, he, Ne.symm he]
      · simp [take, get, he, h, ih hl.2]

theorem total_take (k : K) (n : Nat) (l : Ledger K) :
    total (take k n l) + min n (get k l) = total l := by
  induction l with
  | nil => simp [take, get]
  | cons e l ih =>
    by_cases he : e.1 = k
    · by_cases hn : e.2 ≤ n
      · simp [take, get, he, hn]; omega
      · simp [take, get, he, hn]; omega
    · simp only [take, get, he, if_false, total_cons]; omega

/-! ## The entries of other keys -/

/-- Adding a key leaves the entries that a test finds alone if it does not find that key. -/
theorem filter_add {p : K → Bool} {k : K} (hk : p k = false) (n : Nat) (l : Ledger K) :
    (add k n l).filter (fun e => p e.1) = l.filter (fun e => p e.1) := by
  unfold add
  split
  · rfl
  · induction l with
    | nil => simp [increase, hk]
    | cons e l ih =>
      by_cases he : e.1 = k
      · simp [increase, he, hk]
      · simp only [increase, he, if_false, List.filter_cons, ih]

theorem filter_erase {p : K → Bool} {k : K} (hk : p k = false) (l : Ledger K) :
    (erase k l).filter (fun e => p e.1) = l.filter (fun e => p e.1) := by
  induction l with
  | nil => rfl
  | cons e l ih =>
    by_cases he : e.1 = k
    · simp [erase, he, hk]
    · simp only [erase, he, if_false, List.filter_cons, ih]

theorem filter_take {p : K → Bool} {k : K} (hk : p k = false) (n : Nat) (l : Ledger K) :
    (take k n l).filter (fun e => p e.1) = l.filter (fun e => p e.1) := by
  induction l with
  | nil => rfl
  | cons e l ih =>
    by_cases he : e.1 = k
    · by_cases hn : e.2 ≤ n <;> simp [take, he, hn, hk]
    · simp only [take, he, if_false, List.filter_cons, ih]

end Ledger

end TexCensus
