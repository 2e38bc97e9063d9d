import Mathlib.Data.List.Nodup
import TexCensus.Proofs.Frequency.Merge
import TexCensus.Proofs.Frequency.Refinement

/-!
# Ranking

The ranked entries of a table are its first entries in a strict order: a higher count ranks before a
lower one, and of equal counts the one that was seen first (`Frequency.Outranks`). The sort compares
counts only. That it keeps the order of equal counts makes the ranking strict, whatever the number
of ties at the cut (`Frequency.mostCommon_ranks`).

What was seen first is settled by the operations that made the table. They see keys, and a key that
they take out is forgotten; the keys of the table stand in the order of the sightings that are left
(`TableOp.keys_onTable` for one operation, `keys_watched` for a run).
-/

namespace TexCensus

/-! ## Order in lists -/

section

variable {A : Type} {l : List A} {a b : A}

/-- Of two members of a list, one stands in front of the other. -/
theorem pair_sublist_or (ha : a ∈ l) (hb : b ∈ l) (hne : a ≠ b) :
    [a, b].Sublist l ∨ [b, a].Sublist l := by
  obtain ⟨front, behind, rfl⟩ := List.append_of_mem ha
  rw [List.mem_append, List.mem_cons] at hb
  rcases hb with hb | rfl | hb
  · have hfront : [b].Sublist front := List.singleton_sublist.2 hb
    exact .inr (hfront.append (List.singleton_sublist.2 (List.mem_cons_self ..)))
  · exact absurd rfl hne
  · have hbehind : [b].Sublist behind := List.singleton_sublist.2 hb
    exact .inl ((hbehind.cons_cons a).trans (List.sublist_append_right front _))

/-- A list without repetitions has its members in the order of their places. -/
theorem pairwise_idxOf [DecidableEq A] (h : l.Nodup) :
    l.Pairwise fun a b => l.idxOf a < l.idxOf b := by
  induction l with
  | nil => exact List.Pairwise.nil
  | cons c l ih =>
    rw [List.nodup_cons] at h
    have hne {a : A} (ha : a ∈ l) : c ≠ a := fun hc => h.1 (hc ▸ ha)
    refine List.Pairwise.cons (fun b hb => ?_) ((ih h.2).imp_of_mem fun {a b} ha hb hab => ?_)
    · rw [List.idxOf_cons_self, List.idxOf_cons_ne l (hne hb)]
      exact Nat.succ_pos _
    · rw [List.idxOf_cons_ne l (hne ha), List.idxOf_cons_ne l (hne hb)]
      exact Nat.succ_lt_succ hab

/-- A part of a list without repetitions is made by leaving members out. -/
theorem eq_filter_of_sublist [DecidableEq A] {part : List A} (h : part.Sublist l) (hl : l.Nodup) :
    part = l.filter (· ∈ part) := by
  have hkept : (part.filter (· ∈ part)).Sublist (l.filter (· ∈ part)) := h.filter _
  rw [List.filter_eq_self.2 fun c hc => decide_eq_true hc] at hkept
  have hperm : part.Perm (l.filter (· ∈ part)) := by
    refine (List.perm_ext_iff_of_nodup (h.nodup hl) (hl.filter _)).2 fun c => ?_
    rw [List.mem_filter, decide_eq_true_iff]
    exact ⟨fun hc => ⟨h.subset hc, hc⟩, And.right⟩
  exact hkept.eq_of_length hperm.length_eq

end

variable {K : Type} [DecidableEq K] [Hashable K]

/-! ## The order of a ranking -/

namespace Frequency

variable (f : Frequency K)

/-- The place of a key in first-seen order. -/
def seenAt (k : K) : Nat :=
  f.keys.idxOf k

/-- Whether an entry ranks in front of another one: by a higher count or, if the counts are equal,
by being seen first. -/
def Outranks (a b : K × Nat) : Prop :=
  b.2 < a.2 ∨ a.2 = b.2 ∧ f.seenAt a.1 < f.seenAt b.1

instance (a b : K × Nat) : Decidable (f.Outranks a b) :=
  inferInstanceAs (Decidable (_ ∨ _))

/-- Entries stand in first-seen order. -/
theorem seenAt_lt_of_sublist {a b : K × Nat} (h : [a, b].Sublist f.toList) :
    f.seenAt a.1 < f.seenAt b.1 :=
  List.pairwise_iff_forall_sublist.1 (pairwise_idxOf f.wellFormed.keys_nodup) (h.map Prod.fst)

/-- All entries, ranked. -/
def ranked : List (K × Nat) :=
  f.toList.mergeSort fun a b => b.2 ≤ a.2

theorem mostCommon_eq (n : Nat) : f.mostCommon n = f.ranked.take n := rfl

theorem ranked_perm : f.ranked.Perm f.toList :=
  List.mergeSort_perm _ _

theorem toList_nodup : f.toList.Nodup :=
  List.Nodup.of_map Prod.fst f.wellFormed.keys_nodup

/-- **The entries are ranked strictly.** -/
theorem pairwise_ranked : f.ranked.Pairwise f.Outranks := by
  have htrans (a b c : K × Nat) (hab : decide (b.2 ≤ a.2)) (hbc : decide (c.2 ≤ b.2)) :
      decide (c.2 ≤ a.2) := by
    rw [decide_eq_true_iff] at hab hbc ⊢
    exact hbc.trans hab
  have htotal (a b : K × Nat) : (decide (b.2 ≤ a.2) || decide (a.2 ≤ b.2)) = true := by
    simpa using Nat.le_total b.2 a.2
  have hsorted := List.pairwise_mergeSort htrans htotal f.toList
  have hnodup : f.ranked.Nodup := f.ranked_perm.nodup_iff.2 f.toList_nodup
  refine List.pairwise_iff_forall_sublist.2 fun {a b} hab => ?_
  have hle : b.2 ≤ a.2 := by
    simpa using List.pairwise_iff_forall_sublist.1 hsorted hab
  rcases Nat.lt_or_eq_of_le hle with hlt | heq
  · exact .inl hlt
  · have hmem {c : K × Nat} (hc : c ∈ [a, b]) : c ∈ f.toList :=
      f.ranked_perm.subset (hab.subset hc)
    have hne : a ≠ b := by simpa using hab.nodup hnodup
    refine .inr ⟨heq.symm, f.seenAt_lt_of_sublist ?_⟩
    refine (pair_sublist_or (hmem (by simp)) (hmem (by simp)) hne).resolve_right fun hba => ?_
    -- The sort would have kept the other order.
    have hkept : [b, a].Sublist f.ranked :=
      List.pair_sublist_mergeSort htrans htotal (by simp [heq]) hba
    exact absurd (List.pairwise_iff_forall_sublist.1 (pairwise_idxOf hnodup) hkept)
      (List.pairwise_iff_forall_sublist.1 (pairwise_idxOf hnodup) hab).asymm

/-- Whether a list has the first `n` entries of a table. -/
structure IsRanking (n : Nat) (l : List (K × Nat)) : Prop where
  /-- There are `n` of them, or all. -/
  length_eq : l.length = min n f.size
  /-- They are entries of the table. -/
  subset : l ⊆ f.toList
  /-- No entry is listed twice. -/
  nodup : l.Nodup
  /-- Each ranks in front of those behind it. -/
  pairwise : l.Pairwise f.Outranks
  /-- Each ranks in front of what is left out. -/
  outranks : ∀ a ∈ l, ∀ b ∈ f.toList, b ∉ l → f.Outranks a b

theorem isRanking_mostCommon (n : Nat) : f.IsRanking n (f.mostCommon n) where
  length_eq := by rw [mostCommon_eq, List.length_take, f.ranked_perm.length_eq, size_eq]
  subset := fun _ he => f.ranked_perm.subset (List.take_subset n _ he)
  nodup := (f.ranked_perm.nodup_iff.2 f.toList_nodup).sublist (List.take_sublist n _)
  pairwise := f.pairwise_ranked.sublist (List.take_sublist n _)
  outranks := by
    intro a ha b hb hleft
    have hsplit := f.pairwise_ranked
    rw [← List.take_append_drop n f.ranked, List.pairwise_append] at hsplit
    refine hsplit.2.2 a ha b ?_
    have hmem : b ∈ f.ranked.take n ++ f.ranked.drop n := by
      rw [List.take_append_drop]
      exact f.ranked_perm.mem_iff.2 hb
    exact (List.mem_append.1 hmem).resolve_left hleft

end Frequency

/-! ## First-seen order -/

/-- The keys of pairs that bring a count. -/
def countedKeys (pairs : List (K × Nat)) : List K :=
  (pairs.filter fun e => 0 < e.2).map Prod.fst

namespace TableOp

/-- The keys that were seen in front of an operation or come with it, in order. -/
def seen (key? : Value → Option K) (before : List K) : TableOp K → List K
  | count items => items
  | ofPairs pairs => countedKeys pairs
  | load t =>
    match (Json.Reader.counts key?).runText .start t with
    | .ok pairs => countedKeys pairs
    | .error _ => before
  | add k n => before ++ countedKeys [(k, n)]
  | remove _ | subtract _ _ | filter _ => before

end TableOp

/-- Runs an operation on a table of which the sightings of its keys are known. A key that is not
there behind it is forgotten. -/
def watch (key? : Value → Option K) (watched : Frequency K × List K) (op : TableOp K) :
    Frequency K × List K :=
  let next := (op.onTable key? watched.1).2
  (next, (op.seen key? watched.2).filter next.contains)

/-- The table that operations make out of the empty one, with the sightings of its keys. -/
def watched (key? : Value → Option K) (ops : List (TableOp K)) : Frequency K × List K :=
  ops.foldl (watch key?) (∅, [])

namespace Frequency

variable {f : Frequency K} {sightings : List K}

theorem keys_ofPairs (pairs : List (K × Nat)) :
    (ofPairs pairs).keys = (countedKeys pairs).eraseDups :=
  (sumOf_ofPairs pairs).keys_eq

/-- A new key comes behind the others. -/
theorem keys_add (h : f.keys = sightings.eraseDups) (k : K) (n : Nat) :
    (f.add k n).keys = (sightings ++ countedKeys [(k, n)]).eraseDups := by
  have hnew : (countedKeys [(k, n)]).filter (fun k' => k' ∉ f.keys)
      = (countedKeys [(k, n)]).removeAll sightings := by
    refine List.filter_congr fun k' _ => ?_
    rw [decide_not, List.elem_eq_mem, h, decide_eq_decide.2 List.mem_eraseDups]
  rw [List.eraseDups_append, ← h, ← hnew, keys, toList_add]
  exact Ledger.keys_addAll f.toList [(k, n)]

/-- Of the sightings of a list, those of some keys are counted in the same order. -/
theorem filter_eraseDups (keep : K → Bool) (items : List K) :
    items.eraseDups.filter keep = (items.filter keep).eraseDups := by
  rw [← keys_count, ← keys_count, ← filter_count, keys, keys, toList_filter, List.filter_map]
  rfl

end Frequency

namespace TableOp

variable {f : Frequency K} {sightings : List K}

theorem keys_onTable_sublist (key? : Value → Option K) (h : f.keys = sightings.eraseDups)
    (op : TableOp K) : (op.onTable key? f).2.keys.Sublist (op.seen key? sightings).eraseDups := by
  cases op with
  | count items => exact (Frequency.keys_count items).symm ▸ List.Sublist.refl _
  | ofPairs pairs => exact (Frequency.keys_ofPairs pairs).symm ▸ List.Sublist.refl _
  | load t =>
    simp only [onTable, seen, Frequency.read]
    cases (Json.Reader.counts key?).runText .start t with
    | ok pairs => exact (Frequency.keys_ofPairs pairs).symm ▸ List.Sublist.refl _
    | error fault => exact h ▸ List.Sublist.refl _
  | add k n => exact (Frequency.keys_add h k n).symm ▸ List.Sublist.refl _
  | remove k =>
    show ((f.remove k).2.toList.map Prod.fst).Sublist sightings.eraseDups
    rw [← h, f.toList_remove]
    exact Ledger.keys_erase_sublist k f.toList
  | subtract k n =>
    show ((f.subtract k n).2.toList.map Prod.fst).Sublist sightings.eraseDups
    rw [← h, f.toList_subtract]
    exact Ledger.keys_take_sublist k n f.toList
  | filter keep =>
    show ((f.filter keep).toList.map Prod.fst).Sublist sightings.eraseDups
    rw [← h, f.toList_filter]
    exact List.filter_sublist.map Prod.fst

/-- **One operation.** If the keys stand in the order in which they were seen, they do so behind an
operation. -/
theorem keys_onTable (key? : Value → Option K) (h : f.keys = sightings.eraseDups)
    (op : TableOp K) :
    (op.onTable key? f).2.keys
      = ((op.seen key? sightings).filter (op.onTable key? f).2.contains).eraseDups := by
  have hnodup : (op.seen key? sightings).eraseDups.Nodup := by
    rw [← Frequency.keys_count]
    exact (Frequency.wellFormed _).keys_nodup
  rw [← Frequency.filter_eraseDups]
  refine (eq_filter_of_sublist (op.keys_onTable_sublist key? h) hnodup).trans ?_
  refine List.filter_congr fun k _ => ?_
  rw [Bool.eq_iff_iff, decide_eq_true_iff, Frequency.mem_keys_iff, Frequency.contains_iff]

end TableOp

/-- **A run.** The keys of a table stand in the order in which they were seen since they were last
absent. -/
theorem keys_watched (key? : Value → Option K) (ops : List (TableOp K)) :
    (watched key? ops).1.keys = (watched key? ops).2.eraseDups := by
  have hrun (w : Frequency K × List K) (hw : w.1.keys = w.2.eraseDups) :
      (ops.foldl (watch key?) w).1.keys = (ops.foldl (watch key?) w).2.eraseDups := by
    induction ops generalizing w with
    | nil => exact hw
    | cons op ops ih => exact ih (watch key? w op) (op.keys_onTable key? hw)
  exact hrun (∅, []) rfl

/-! ## Rankings -/

/-- **The most common keys come first, and of equally common ones those that were seen first.** In a
table that operations made, the keys stand in the order in which the operations saw them. A ranking
lists as many entries as asked for, or all, and each of them ranks in front of all that follow and
all that are left out. A shorter ranking is the beginning of a longer one, and one that is long
enough has every entry. -/
theorem mostCommon_ranks (key? : Value → Option K) (ops : List (TableOp K)) :
    let f := (watched key? ops).1
    f.keys = (watched key? ops).2.eraseDups
      ∧ (∀ n, f.IsRanking n (f.mostCommon n))
      ∧ (∀ m n, m ≤ n → f.mostCommon m <+: f.mostCommon n)
      ∧ ∀ n, f.size ≤ n → (f.mostCommon n).Perm f.toList := by
  intro f
  refine ⟨keys_watched key? ops, f.isRanking_mostCommon,
    fun m n hle => List.take_prefix_take_left hle, fun n hle => ?_⟩
  rw [f.size_eq, ← f.ranked_perm.length_eq] at hle
  rw [f.mostCommon_eq, List.take_of_length_le hle]
  exact f.ranked_perm

end TexCensus
