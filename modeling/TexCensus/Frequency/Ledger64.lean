import TexCensus.Data.Bits
import TexCensus.Frequency.Ledger

/-!
# Ledgers with counts of 64 bits

A stored count has 64 bits. A `Frequency` counts without bound, which comes to the same as long as
its counts fit. A `Ledger64` says what happens beyond: a sum that does not fit starts again at zero.
No key stands twice in it, but a key may be left with the count zero. Such a key is there for
`Ledger64.contains`, and is taken out as soon as something is taken away from it.
-/

namespace TexCensus

/-- Keys with counts of 64 bits, without repetition. -/
structure Ledger64 (K : Type) where
  /-- The keys with their counts, in first-seen order. -/
  entries : Ledger K
  /-- No key stands twice. -/
  keys_nodup : entries.keys.Nodup
  /-- Every count has 64 bits. -/
  counts_fit : ∀ e ∈ entries, fitsUnsigned 64 e.2 = true
deriving DecidableEq

namespace Ledger64

variable {K : Type}

/-- **A stored table is determined by its entries.** -/
theorem ext {t u : Ledger64 K} (h : t.entries = u.entries) : t = u := by
  cases t
  cases u
  simpa using h

/-! ## Looking up -/

/-- The number of keys. -/
def size (t : Ledger64 K) : Nat :=
  t.entries.length

/-- Whether there are no keys. -/
def isEmpty (t : Ledger64 K) : Bool :=
  t.entries.isEmpty

/-- The sum of all counts, in 64 bits. -/
def total (t : Ledger64 K) : Nat :=
  wrapped 64 t.entries.total

/-- The `n` highest counts, highest first; equal counts stay in first-seen order. -/
def mostCommon (t : Ledger64 K) (n : Nat) : List (K × Nat) :=
  (t.entries.mergeSort fun a b => b.2 ≤ a.2).take n

variable [DecidableEq K]

/-- The count of a key, zero if it is absent. -/
def get (t : Ledger64 K) (k : K) : Nat :=
  t.entries.get k

/-- Whether a key is there, be its count zero. -/
def contains (t : Ledger64 K) (k : K) : Bool :=
  t.entries.contains k

/-! ## Building -/

/-- The ledger without keys. -/
def empty : Ledger64 K where
  entries := []
  keys_nodup := .nil
  counts_fit := by simp

instance : EmptyCollection (Ledger64 K) := ⟨empty⟩

instance : Inhabited (Ledger64 K) := ⟨∅⟩

/-- Adds `n` occurrences of a key: a key that is there grows in place, a new one goes to the end. A
sum that does not fit starts again at zero. Adding zero changes nothing. -/
def add (t : Ledger64 K) (k : K) (n : Nat) : Ledger64 K :=
  if n = 0 then t
  else {
    entries := t.entries.put k (wrapped 64 (t.get k + n))
    keys_nodup := Ledger.nodup_keys_put k _ t.keys_nodup
    counts_fit := by
      intro e he
      rcases Ledger.mem_put he with rfl | he
      · exact fitsUnsigned_wrapped 64 _
      · exact t.counts_fit e he }

theorem entries_add (t : Ledger64 K) (k : K) (n : Nat) :
    (t.add k n).entries
      = if n = 0 then t.entries else t.entries.put k (wrapped 64 (t.get k + n)) := by
  unfold add
  split <;> rfl

/-- Adds the pairs of a list one after another. -/
def addAll (t : Ledger64 K) (pairs : List (K × Nat)) : Ledger64 K :=
  pairs.foldl (fun t e => t.add e.1 e.2) t

/-- The ledger of a list of pairs. -/
def ofPairs (pairs : List (K × Nat)) : Ledger64 K :=
  empty.addAll pairs

/-- Counts the members of a list. -/
def count (items : List K) : Ledger64 K :=
  ofPairs (items.map fun k => (k, 1))

/-! ## Removing -/

/-- Takes the entry of a key out. -/
def erase (t : Ledger64 K) (k : K) : Ledger64 K where
  entries := t.entries.erase k
  keys_nodup := t.keys_nodup.sublist (Ledger.keys_erase_sublist k t.entries)
  counts_fit := fun e he => t.counts_fit e ((Ledger.erase_sublist k t.entries).subset he)

/-- Takes a key out and gives its count. -/
def remove (t : Ledger64 K) (k : K) : Option Nat × Ledger64 K :=
  if t.contains k then (some (t.get k), t.erase k) else (none, t)

/-- Lowers a key by up to `n` and takes it out if nothing is left. -/
def take (t : Ledger64 K) (k : K) (n : Nat) : Ledger64 K where
  entries := t.entries.take k n
  keys_nodup := t.keys_nodup.sublist (Ledger.keys_take_sublist k n t.entries)
  counts_fit := by
    intro e he
    obtain ⟨m, hm, hle⟩ := Ledger.mem_take he
    have hfits : m < bitValues 64 := of_decide_eq_true (t.counts_fit _ hm)
    exact decide_eq_true (Nat.lt_of_le_of_lt hle hfits)

/-- Takes up to `n` occurrences of a key away and says how many. -/
def subtract (t : Ledger64 K) (k : K) (n : Nat) : Nat × Ledger64 K :=
  (min n (t.get k), t.take k n)

/-- The entries whose keys pass a test, in their order; zeros are left out. -/
def filter (t : Ledger64 K) (keep : K → Bool) : Ledger64 K :=
  ofPairs (t.entries.filter fun e => keep e.1)

end Ledger64

end TexCensus
