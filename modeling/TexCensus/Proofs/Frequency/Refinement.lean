import Mathlib.Data.List.Forall2
import TexCensus.Proofs.Frequency.View
import TexCensus.Record.Document

/-!
# Tables refine ledgers

Any sequence of operations runs on a table and on a ledger side by side. One step keeps the entries
of the two equal and gives the same answer (`TableOp.onTable_eq_onLedger`), so after every step of
every run the two cannot be told apart by any question (`trace_refines`).
-/

namespace TexCensus

variable {K : Type} [DecidableEq K] [Hashable K]

/-! ## Operations -/

/-- An operation on a table. -/
inductive TableOp (K : Type) where
  /-- Starts over with the counts of a list. -/
  | count (items : List K)
  /-- Starts over with the pairs of a list. -/
  | ofPairs (pairs : List (K × Nat))
  /-- Starts over with the pairs that a JSON text lists. -/
  | load (t : Text)
  /-- Adds occurrences of a key. -/
  | add (k : K) (n : Nat)
  /-- Takes a key out. -/
  | remove (k : K)
  /-- Takes occurrences of a key away. -/
  | subtract (k : K) (n : Nat)
  /-- Keeps the keys that pass a test. -/
  | filter (keep : K → Bool)

/-- What an operation answers. -/
inductive TableAnswer where
  /-- Nothing. -/
  | done
  /-- The count of the key that was taken out, if there was one. -/
  | removed (n : Option Nat)
  /-- How many occurrences were taken away. -/
  | taken (n : Nat)
  /-- Why a text was not loaded. -/
  | refused (fault : Json.Fault)
deriving DecidableEq

namespace TableOp

/-- An operation on a table whose keys are read from values by `key?`. A text that lists no pairs
changes nothing. -/
def onTable (key? : Value → Option K) (f : Frequency K) : TableOp K → TableAnswer × Frequency K
  | count items => (.done, .count items)
  | ofPairs pairs => (.done, .ofPairs pairs)
  | load t =>
    match Frequency.read key? t with
    | .ok g => (.done, g)
    | .error fault => (.refused fault, f)
  | add k n => (.done, f.add k n)
  | remove k =>
    let (n, g) := f.remove k
    (.removed n, g)
  | subtract k n =>
    let (taken, g) := f.subtract k n
    (.taken taken, g)
  | filter keep => (.done, f.filter keep)

/-- The same operation on a ledger. -/
def onLedger (key? : Value → Option K) (l : Ledger K) : TableOp K → TableAnswer × Ledger K
  | count items => (.done, Ledger.addAll [] (items.map fun k => (k, 1)))
  | ofPairs pairs => (.done, Ledger.addAll [] pairs)
  | load t =>
    match (Json.Reader.counts key?).runText .start t with
    | .ok pairs => (.done, Ledger.addAll [] pairs)
    | .error fault => (.refused fault, l)
  | add k n => (.done, Ledger.add k n l)
  | remove k =>
    let (n, m) := Ledger.remove k l
    (.removed n, m)
  | subtract k n =>
    let (taken, m) := Ledger.subtract k n l
    (.taken taken, m)
  | filter keep => (.done, l.filter fun e => keep e.1)

/-- **One step.** An operation answers the same on a table and on its list of entries, and leaves a
table whose entries are what the list became. -/
theorem onTable_eq_onLedger (key? : Value → Option K) (f : Frequency K) (op : TableOp K) :
    ((op.onTable key? f).1, (op.onTable key? f).2.toList) = op.onLedger key? f.toList := by
  cases op with
  | count items => simp only [onTable, onLedger, Frequency.toList_count]
  | ofPairs pairs => simp only [onTable, onLedger, Frequency.toList_ofPairs]
  | load t =>
    simp only [onTable, onLedger, Frequency.read]
    cases (Json.Reader.counts key?).runText .start t with
    | ok pairs => simp only [Except.map, Frequency.toList_ofPairs]
    | error fault => rfl
  | add k n => simp only [onTable, onLedger, Frequency.toList_add]
  | remove k => simp only [onTable, onLedger, ← Frequency.remove_eq]
  | subtract k n => simp only [onTable, onLedger, ← Frequency.subtract_eq]
  | filter keep => simp only [onTable, onLedger, Frequency.toList_filter]

end TableOp

/-! ## Runs -/

/-- The answers of operations that run one after another, each with the table behind it. -/
def tableTrace (key? : Value → Option K) (f : Frequency K) :
    List (TableOp K) → List (TableAnswer × Frequency K)
  | [] => []
  | op :: ops =>
    let next := op.onTable key? f
    next :: tableTrace key? next.2 ops

/-- The same for a ledger. -/
def ledgerTrace (key? : Value → Option K) (l : Ledger K) :
    List (TableOp K) → List (TableAnswer × Ledger K)
  | [] => []
  | op :: ops =>
    let next := op.onLedger key? l
    next :: ledgerTrace key? next.2 ops

/-! ## Observations -/

/-- No question tells a table from a ledger, and the index of the table is sound. -/
structure Frequency.Refines (f : Frequency K) (l : Ledger K) : Prop where
  /-- The entries come in the same order. -/
  toList_eq : f.toList = l
  /-- The index gives a slot for a key exactly when the slot holds the key. -/
  index_iff : ∀ (k : K) (i : Nat), f.index[k]? = some i ↔ ∃ n : Nat, f.entries[i]? = some (k, n)
  /-- No slot of the index lies outside the entries. -/
  slot_lt : ∀ (k : K) (i : Nat), f.index[k]? = some i → i < f.entries.size
  /-- No key stands twice and no count is zero. -/
  wellFormed : l.WellFormed
  /-- Every key has the same count. -/
  get_eq : ∀ k : K, f.get k = l.get k
  /-- The same keys are there. -/
  contains_eq : ∀ k : K, f.contains k = l.contains k
  /-- There are as many keys. -/
  size_eq : f.size = l.length
  /-- Both are empty or none is. -/
  isEmpty_eq : f.isEmpty = l.isEmpty
  /-- The counts have the same sum. -/
  total_eq : f.total = l.total
  /-- The table equals another one exactly when the lists of entries are equal. -/
  eq_iff : ∀ g : Frequency K, f = g ↔ l = g.toList

namespace Frequency

/-- A table refines its list of entries. -/
theorem refines_toList (f : Frequency K) : f.Refines f.toList where
  toList_eq := rfl
  index_iff := f.index_eq_some_iff
  slot_lt := fun _ _ h => f.slot_lt h
  wellFormed := f.wellFormed
  get_eq := f.get_eq
  contains_eq := f.contains_eq
  size_eq := f.size_eq
  isEmpty_eq := f.isEmpty_eq
  total_eq := f.total_eq
  eq_iff := fun _ => ⟨congrArg toList, ext⟩

end Frequency

/-- Runs from a table and from its list of entries go side by side. -/
theorem forall₂_trace (key? : Value → Option K) (ops : List (TableOp K)) (f : Frequency K) :
    List.Forall₂ (fun s t => s.1 = t.1 ∧ s.2.Refines t.2)
      (tableTrace key? f ops) (ledgerTrace key? f.toList ops) := by
  induction ops generalizing f with
  | nil => exact .nil
  | cons op ops ih =>
    have hstep := op.onTable_eq_onLedger key? f
    rw [tableTrace, ledgerTrace, ← hstep]
    exact .cons ⟨rfl, (op.onTable key? f).2.refines_toList⟩ (ih (op.onTable key? f).2)

/-- **A table is a plain list of keys with counts that is searched faster.** From the empty table
on, every operation of every run answers what it answers on the list, and the table behind it
refines the list behind it. -/
theorem trace_refines (key? : Value → Option K) (ops : List (TableOp K)) :
    (∅ : Frequency K).Refines []
      ∧ List.Forall₂ (fun s t => s.1 = t.1 ∧ s.2.Refines t.2)
          (tableTrace key? ∅ ops) (ledgerTrace key? [] ops) :=
  ⟨(∅ : Frequency K).refines_toList, forall₂_trace key? ops ∅⟩

end TexCensus
