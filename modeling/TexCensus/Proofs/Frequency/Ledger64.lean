import TexCensus.Proofs.Frequency.Count
import TexCensus.Proofs.Frequency.Refinement
import TexCensus.Record.Record64

/-!
# Tables in 64 bits

Two things are said about stored tables. Whatever the counts are, adding to a key leaves the entries
of the other keys alone and adds to the sum in 64 bits (`Ledger64.filter_add`,
`Ledger64.total_add`).

And as long as sums fit, a stored table holds exactly the counts of a `Frequency`
(`Ledger64.Holds`): one operation keeps that (`TableOp.onLedger64_holds`), so a run does
(`forall₂_ledger64Trace`). This is why tables that are counted in a text need no bound.
-/

namespace TexCensus

variable {K : Type} [DecidableEq K]

theorem wrapped_64 (n : Nat) : wrapped 64 n = n % 18446744073709551616 := rfl

/-! ## Writing a count -/

namespace Ledger

theorem get_put (k k' : K) (n : Nat) (l : Ledger K) :
    get k' (put k n l) = if k = k' then n else get k' l := by
  induction l with
  | nil => simp [put, get]
  | cons e l ih =>
    by_cases he : e.1 = k
    · subst he
      by_cases h : e.1 = k' <;> simp [put, get, h]
    · by_cases h : e.1 = k'
      · subst h
        simp [put, get, he, Ne.symm he]
      · simp [put, get, he, h, ih]

theorem total_put (k : K) (n : Nat) (l : Ledger K) : total (put k n l) + get k l = total l + n := by
  induction l with
  | nil => simp [put, get]
  | cons e l ih =>
    by_cases he : e.1 = k
    · simp only [put, get, he, if_true, total_cons]; omega
    · simp only [put, get, he, if_false, total_cons]; omega

theorem filter_put {p : K → Bool} {k : K} (hk : p k = false) (n : Nat) (l : Ledger K) :
    (put k n l).filter (fun e => p e.1) = l.filter (fun e => p e.1) := by
  induction l with
  | nil => simp [put, hk]
  | cons e l ih =>
    by_cases he : e.1 = k
    · simp [put, he, hk]
    · simp only [put, he, if_false, List.filter_cons, ih]

/-- Writing the old count with something added increases it. -/
theorem put_get_add (k : K) (n : Nat) (l : Ledger K) : put k (get k l + n) l = increase k n l := by
  induction l with
  | nil => simp [put, get, increase]
  | cons e l ih =>
    by_cases he : e.1 = k
    · simp [put, get, increase, he]
    · simp only [put, get, increase, he, if_false, ih]

/-- No count is larger than the sum. -/
theorem get_le_total (k : K) (l : Ledger K) : get k l ≤ total l := by
  have := total_erase k l
  omega

/-- **A ledger that counts no key more often than another one has no larger sum.** -/
theorem total_le_total {l m : Ledger K} (hl : (keys l).Nodup) (hm : (keys m).Nodup)
    (h : ∀ k, get k l ≤ get k m) : total l ≤ total m := by
  induction l generalizing m with
  | nil => exact Nat.zero_le _
  | cons e l ih =>
    rw [keys_cons, List.nodup_cons] at hl
    have hrest : total l ≤ total (erase e.1 m) := by
      refine ih hl.2 (hm.sublist (keys_erase_sublist e.1 m)) fun k => ?_
      rw [get_erase e.1 k hm]
      by_cases hk : e.1 = k
      · subst hk
        simp [get_of_not_mem hl.1]
      · simpa [get, hk] using h k
    have hfirst : e.2 ≤ get e.1 m := by simpa [get] using h e.1
    have herase := total_erase e.1 m
    rw [total_cons]
    omega

end Ledger

/-! ## Laws without a bound -/

namespace Ledger64

theorem get_add (t : Ledger64 K) (k k' : K) (n : Nat) (h : k ≠ k') :
    (t.add k n).get k' = t.get k' := by
  rw [get, entries_add]
  split
  · rfl
  · rw [Ledger.get_put, if_neg h, get]

theorem get_erase (t : Ledger64 K) (k k' : K) :
    (t.erase k).get k' = if k = k' then 0 else t.get k' :=
  Ledger.get_erase k k' t.keys_nodup

theorem get_take (t : Ledger64 K) (k k' : K) (n : Nat) :
    (t.take k n).get k' = t.get k' - if k = k' then n else 0 :=
  Ledger.get_take k k' n t.keys_nodup

/-- **Adding adds to the sum in 64 bits**, whether or not the count of the key fits. -/
theorem total_add (t : Ledger64 K) (k : K) (n : Nat) :
    (t.add k n).total = wrapped 64 (t.entries.total + n) := by
  rw [total, entries_add]
  split
  · next h => rw [h]; rfl
  · have hput := Ledger.total_put k (wrapped 64 (t.get k + n)) t.entries
    simp only [get, wrapped_64] at hput ⊢
    omega

theorem filter_add {p : K → Bool} {k : K} (hk : p k = false) (t : Ledger64 K) (n : Nat) :
    ((t.add k n).entries.filter fun e => p e.1) = t.entries.filter fun e => p e.1 := by
  rw [entries_add]
  split
  · rfl
  · exact Ledger.filter_put hk _ _

/-! ## Operations on entries -/

theorem remove_eq (t : Ledger64 K) (k : K) :
    ((t.remove k).1, (t.remove k).2.entries) = Ledger.remove k t.entries := by
  cases hk : t.entries.contains k <;>
    simp [remove, Ledger.remove, contains, get, erase, hk]

/-- The entries of a sum that fits are increased as in any ledger. -/
theorem entries_add_of_lt (t : Ledger64 K) (k : K) {n : Nat} (h : t.get k + n < bitValues 64) :
    (t.add k n).entries = Ledger.add k n t.entries := by
  rw [entries_add, wrapped_of_lt h, get, Ledger.put_get_add, Ledger.add]

/-! ## Counts that fit -/

/-- The sum of all counts has 64 bits. -/
def Fits (t : Ledger64 K) : Prop :=
  t.entries.total < bitValues 64

instance (t : Ledger64 K) : Decidable t.Fits :=
  inferInstanceAs (Decidable (_ < _))

variable [Hashable K]

/-- A stored table holds the counts of a table without bound. -/
def Holds (t : Ledger64 K) (f : Frequency K) : Prop :=
  t.entries = f.toList

namespace Holds

variable {t : Ledger64 K} {f : Frequency K}

theorem wellFormed (h : t.Holds f) : t.entries.WellFormed := by
  rw [h]
  exact f.wellFormed

theorem get_eq (h : t.Holds f) (k : K) : t.get k = f.get k := by
  rw [f.get_eq, ← h, get]

theorem total_eq (h : t.Holds f) : t.entries.total = f.total := by
  rw [f.total_eq, ← h]

/-- **Adding a number that fits adds it.** -/
theorem add (h : t.Holds f) (k : K) {n : Nat} (hn : f.get k + n < bitValues 64) :
    (t.add k n).Holds (f.add k n) := by
  rw [← h.get_eq] at hn
  rw [Holds, t.entries_add_of_lt k hn, f.toList_add, h]

theorem remove (h : t.Holds f) (k : K) :
    (t.remove k).1 = (f.remove k).1 ∧ (t.remove k).2.Holds (f.remove k).2 := by
  have hremove := (t.remove_eq k).trans (h ▸ (f.remove_eq k).symm)
  exact Prod.mk.inj hremove

theorem subtract (h : t.Holds f) (k : K) (n : Nat) :
    (t.subtract k n).1 = (f.subtract k n).1 ∧ (t.subtract k n).2.Holds (f.subtract k n).2 := by
  have hsubtract := f.subtract_eq k n
  rw [← h] at hsubtract
  exact Prod.mk.inj hsubtract.symm

/-- Pairs are added one after another as long as the sum fits. -/
theorem addAll (h : t.Holds f) (pairs : List (K × Nat))
    (hfits : (f.addAll pairs).total < bitValues 64) :
    (t.addAll pairs).Holds (f.addAll pairs) := by
  induction pairs generalizing t f with
  | nil => exact h
  | cons e pairs ih =>
    refine ih (h.add e.1 ?_) hfits
    have htotal : f.get e.1 + e.2 ≤ (f.addAll (e :: pairs)).total := by
      rw [Frequency.total_eq, Frequency.toList_addAll, Ledger.total_addAll, Ledger.total_cons,
        f.get_eq]
      have := Ledger.get_le_total e.1 f.toList
      omega
    omega

end Holds

theorem holds_empty : (∅ : Ledger64 K).Holds ∅ :=
  rfl

theorem holds_ofPairs (pairs : List (K × Nat))
    (h : (Frequency.ofPairs pairs).total < bitValues 64) :
    (ofPairs pairs).Holds (.ofPairs pairs) :=
  holds_empty.addAll pairs h

theorem Holds.filter {t : Ledger64 K} {f : Frequency K} (h : t.Holds f) (keep : K → Bool)
    (hfits : (f.filter keep).total < bitValues 64) : (t.filter keep).Holds (f.filter keep) := by
  have hentries : t.entries = f.toList := h
  rw [Ledger64.filter, hentries]
  exact holds_ofPairs _ hfits

end Ledger64

/-! ## Runs -/

namespace TableOp

variable [Hashable K]

/-- An operation on a stored table whose keys are read from values by `key?`. -/
def onLedger64 (key? : Value → Option K) (t : Ledger64 K) : TableOp K → TableAnswer × Ledger64 K
  | count items => (.done, .count items)
  | ofPairs pairs => (.done, .ofPairs pairs)
  | load text =>
    match Ledger64.read key? text with
    | .ok u => (.done, u)
    | .error fault => (.refused fault, t)
  | add k n => (.done, t.add k n)
  | remove k =>
    let (n, u) := t.remove k
    (.removed n, u)
  | subtract k n =>
    let (taken, u) := t.subtract k n
    (.taken taken, u)
  | filter keep => (.done, t.filter keep)

/-- **One step.** If the counts behind an operation add up to a number of 64 bits, the operation
answers the same on a stored table and leaves the same counts. -/
theorem onLedger64_holds (key? : Value → Option K) {t : Ledger64 K} {f : Frequency K}
    (h : t.Holds f) (op : TableOp K) (hfits : (op.onTable key? f).2.total < bitValues 64) :
    (op.onLedger64 key? t).1 = (op.onTable key? f).1
      ∧ (op.onLedger64 key? t).2.Holds (op.onTable key? f).2 := by
  cases op with
  | count items =>
    simp only [onTable, Frequency.count_eq_ofPairs] at hfits ⊢
    exact ⟨rfl, Ledger64.holds_ofPairs _ hfits⟩
  | ofPairs pairs => exact ⟨rfl, Ledger64.holds_ofPairs pairs hfits⟩
  | load text =>
    simp only [onTable, onLedger64, Frequency.read, Ledger64.read] at hfits ⊢
    cases hread : (Json.Reader.counts key?).runText .start text with
    | ok pairs =>
      rw [hread] at hfits
      exact ⟨rfl, Ledger64.holds_ofPairs pairs hfits⟩
    | error fault => exact ⟨rfl, h⟩
  | add k n =>
    refine ⟨rfl, h.add k ?_⟩
    have hsum : f.total + n < bitValues 64 := by rwa [onTable, Frequency.total_add] at hfits
    have hle := Ledger.get_le_total k f.toList
    rw [← f.get_eq, ← f.total_eq] at hle
    omega
  | remove k =>
    obtain ⟨hanswer, hholds⟩ := h.remove k
    exact ⟨congrArg TableAnswer.removed hanswer, hholds⟩
  | subtract k n =>
    obtain ⟨hanswer, hholds⟩ := h.subtract k n
    exact ⟨congrArg TableAnswer.taken hanswer, hholds⟩
  | filter keep => exact ⟨rfl, h.filter keep hfits⟩

end TableOp

/-- The answers of operations on a stored table, each with the table behind it. -/
def ledger64Trace [Hashable K] (key? : Value → Option K) (t : Ledger64 K) :
    List (TableOp K) → List (TableAnswer × Ledger64 K)
  | [] => []
  | op :: ops =>
    let next := op.onLedger64 key? t
    next :: ledger64Trace key? next.2 ops

/-- **Tables need no bound as long as their sums fit.** On a run on which the counts behind every
operation add up to a number of 64 bits, a stored table gives the same answers and holds the same
counts. -/
theorem forall₂_ledger64Trace [Hashable K] (key? : Value → Option K) (ops : List (TableOp K))
    {t : Ledger64 K} {f : Frequency K} (h : t.Holds f)
    (hfits : ∀ s ∈ tableTrace key? f ops, s.2.total < bitValues 64) :
    List.Forall₂ (fun s u => s.1 = u.1 ∧ s.2.Holds u.2)
      (ledger64Trace key? t ops) (tableTrace key? f ops) := by
  induction ops generalizing t f with
  | nil => exact .nil
  | cons op ops ih =>
    rw [tableTrace, List.forall_mem_cons] at hfits
    have hstep := op.onLedger64_holds key? h hfits.1
    exact .cons hstep (ih hstep.2 hfits.2)

end TexCensus
