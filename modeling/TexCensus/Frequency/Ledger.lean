/-!
# Ledgers

A ledger is a plain list of keys with counts, searched from the front and without an index. It is
what a frequency table is measured against: every operation here says by recursion on the list what
the operation of the table with the slots has to do.

* `Ledger.add` increases a key in place or writes it at the end.
* `Ledger.put` writes a count over the one a key has.
* `Ledger.erase` takes the first entry of a key out.
* `Ledger.take` lowers a key and takes it out when nothing is left of it.
-/

namespace TexCensus

variable {K : Type}

/-- Keys with counts in a plain list. -/
abbrev Ledger (K : Type) := List (K × Nat)

namespace Ledger

/-- The keys in order. -/
def keys (l : Ledger K) : List K :=
  l.map Prod.fst

/-- The sum of the counts. -/
def total : Ledger K → Nat
  | [] => 0
  | e :: l => e.2 + total l

/-- No key stands twice and no count is zero. -/
structure WellFormed (l : Ledger K) : Prop where
  /-- No key stands twice. -/
  keys_nodup : l.keys.Nodup
  /-- No count is zero. -/
  count_pos : ∀ e ∈ l, 0 < e.2

@[simp] theorem keys_nil : keys ([] : Ledger K) = [] := rfl

@[simp] theorem keys_cons (e : K × Nat) (l : Ledger K) : keys (e :: l) = e.1 :: keys l := rfl

@[simp] theorem keys_append (l m : Ledger K) : keys (l ++ m) = keys l ++ keys m :=
  List.map_append

@[simp] theorem total_nil : total ([] : Ledger K) = 0 := rfl

@[simp] theorem total_cons (e : K × Nat) (l : Ledger K) : total (e :: l) = e.2 + total l :=
  rfl

variable [DecidableEq K]

/-! ## The operations -/

/-- The count of a key, zero if it is absent. -/
def get (k : K) : Ledger K → Nat
  | [] => 0
  | (k', n) :: rest => if k' = k then n else get k rest

/-- Whether a key is there. -/
def contains (k : K) : Ledger K → Bool
  | [] => false
  | (k', _) :: rest => k' = k || contains k rest

/-- Increases a key in place, or writes it at the end if it is absent. -/
def increase (k : K) (n : Nat) : Ledger K → Ledger K
  | [] => [(k, n)]
  | (k', m) :: rest => if k' = k then (k', m + n) :: rest else (k', m) :: increase k n rest

/-- Adds occurrences of a key; none change nothing. -/
def add (k : K) (n : Nat) (l : Ledger K) : Ledger K :=
  if n = 0 then l else increase k n l

/-- Adds the pairs of a list one after another. -/
def addAll (l : Ledger K) (pairs : List (K × Nat)) : Ledger K :=
  pairs.foldl (fun l e => add e.1 e.2 l) l

/-- Writes a count over the one a key has, or at the end if the key is absent. -/
def put (k : K) (n : Nat) : Ledger K → Ledger K
  | [] => [(k, n)]
  | (k', m) :: rest => if k' = k then (k', n) :: rest else (k', m) :: put k n rest

/-- Takes a key out. -/
def erase (k : K) : Ledger K → Ledger K
  | [] => []
  | (k', m) :: rest => if k' = k then rest else (k', m) :: erase k rest

/-- Takes a key out and gives its count. -/
def remove (k : K) (l : Ledger K) : Option Nat × Ledger K :=
  if contains k l then (some (get k l), erase k l) else (none, l)

/-- Lowers a key by up to `n` and takes it out if nothing is left. -/
def take (k : K) (n : Nat) : Ledger K → Ledger K
  | [] => []
  | (k', m) :: rest =>
    if k' = k then if m ≤ n then rest else (k', m - n) :: rest else (k', m) :: take k n rest

/-- Takes up to `n` occurrences of a key away and says how many. -/
def subtract (k : K) (n : Nat) (l : Ledger K) : Nat × Ledger K :=
  (min n (get k l), take k n l)

/-! ## Entries after an operation -/

/-- Writing a count keeps the keys, or puts a new one behind them. -/
theorem keys_put (k : K) (n : Nat) (l : Ledger K) :
    keys (put k n l) = if k ∈ keys l then keys l else keys l ++ [k] := by
  induction l with
  | nil => simp [put]
  | cons e l ih =>
    by_cases he : e.1 = k
    · simp [put, he]
    · simp only [put, he, if_false, keys_cons, ih, List.mem_cons, Ne.symm he, false_or]
      split <;> simp

/-- No key stands twice after a count was written. -/
theorem nodup_keys_put (k : K) (n : Nat) {l : Ledger K} (hl : (keys l).Nodup) :
    (keys (put k n l)).Nodup := by
  rw [keys_put]
  split
  · exact hl
  · next hk => exact List.nodup_append.2 ⟨hl, by simp, by simp; rintro _ h rfl; exact hk h⟩

theorem mem_put {k : K} {n : Nat} {l : Ledger K} {e : K × Nat} (he : e ∈ put k n l) :
    e = (k, n) ∨ e ∈ l := by
  induction l with
  | nil => simpa [put] using he
  | cons e' l ih =>
    rw [put] at he
    split at he
    · next hk =>
      rcases List.mem_cons.1 he with rfl | he
      · exact .inl (by rw [hk])
      · exact .inr (List.mem_cons_of_mem _ he)
    · rcases List.mem_cons.1 he with rfl | he
      · exact .inr List.mem_cons_self
      · exact (ih he).imp_right (List.mem_cons_of_mem _)

theorem erase_sublist (k : K) (l : Ledger K) : (erase k l).Sublist l := by
  induction l with
  | nil => exact .slnil
  | cons e l ih =>
    rw [erase]
    split
    · exact List.sublist_cons_self e l
    · exact ih.cons_cons e

theorem keys_erase_sublist (k : K) (l : Ledger K) : (keys (erase k l)).Sublist (keys l) :=
  (erase_sublist k l).map Prod.fst

/-- Lowering a count keeps the order of the keys. -/
theorem keys_take_sublist (k : K) (n : Nat) (l : Ledger K) :
    (keys (take k n l)).Sublist (keys l) := by
  induction l with
  | nil => exact .slnil
  | cons e l ih =>
    rw [take]
    split
    · split
      · exact List.sublist_cons_self _ _
      · exact .refl _
    · exact ih.cons_cons e.1

/-- Lowering a count raises none. -/
theorem mem_take {k : K} {n : Nat} {l : Ledger K} {e : K × Nat} (he : e ∈ take k n l) :
    ∃ m, (e.1, m) ∈ l ∧ e.2 ≤ m := by
  induction l with
  | nil => cases he
  | cons e' l ih =>
    have hrest (he : e ∈ l) : ∃ m, (e.1, m) ∈ e' :: l ∧ e.2 ≤ m :=
      ⟨e.2, List.mem_cons_of_mem _ he, Nat.le_refl _⟩
    rw [take] at he
    split at he
    · split at he
      · exact hrest he
      · rcases List.mem_cons.1 he with rfl | he
        · exact ⟨e'.2, List.mem_cons_self, Nat.sub_le _ _⟩
        · exact hrest he
    · rcases List.mem_cons.1 he with rfl | he
      · exact ⟨e'.2, List.mem_cons_self, Nat.le_refl _⟩
      · obtain ⟨m, hm, hle⟩ := ih he
        exact ⟨m, List.mem_cons_of_mem _ hm, hle⟩

end Ledger

end TexCensus
