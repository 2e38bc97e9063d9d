import TexCensus.Proofs.Pattern.Stretches

/-!
# First places

Reading something at the leftmost place of a text where it can be read (`findFirst?`). A search for
a pattern that matches only where that can be read keeps everything in front of the first place
(`Pattern.segments_of_findFirst?`), and a lazy run of any characters goes up to the first place
where the rest of the pattern can be read (`Pattern.runLazy_any_eq`).
-/

namespace TexCensus

/-- Reads something at the front of a text: what is read and the text behind it. -/
abbrev FrontReader := Text → Option (Text × Text)

/-- Something in a text. -/
structure Found where
  /-- The text in front of it. -/
  front : Text
  /-- What was found. -/
  mark : Text
  /-- The text behind it. -/
  behind : Text

/-- Finds the leftmost place of a text where something can be read. -/
def findFirst? (read? : FrontReader) : Text → Option Found
  | [] => none
  | c :: t =>
    match read? (c :: t) with
    | some (mark, behind) => some ⟨[], mark, behind⟩
    | none => (findFirst? read? t).map fun found => { found with front := c :: found.front }

/-- Reads a given text. -/
def readLiteral? (mark : Text) : FrontReader := fun t =>
  (dropStart? mark t).map fun behind => (mark, behind)

/-- Whether what is read and the text behind it make up the text. -/
def FrontReader.Splits (read? : FrontReader) : Prop :=
  ∀ t mark behind, read? t = some (mark, behind) → t = mark ++ behind

variable {read? : FrontReader} {t : Text} {found : Found}

/-! ## Reading -/

theorem FrontReader.Splits.length_eq (hsplits : read?.Splits) {mark behind : Text}
    (h : read? t = some (mark, behind)) : t.length = mark.length + behind.length := by
  rw [hsplits _ _ _ h, List.length_append]

theorem readLiteral?_eq_some_iff {start mark behind : Text} :
    readLiteral? start t = some (mark, behind) ↔ mark = start ∧ t = start ++ behind := by
  rw [readLiteral?, Option.map_eq_some_iff]
  constructor
  · rintro ⟨rest, hrest, h⟩
    obtain ⟨rfl, rfl⟩ := Prod.mk.inj h
    exact ⟨rfl, dropStart?_eq_some_iff.1 hrest⟩
  · rintro ⟨rfl, ht⟩
    exact ⟨behind, dropStart?_eq_some_iff.2 ht, rfl⟩

theorem splits_readLiteral? (mark : Text) : FrontReader.Splits (readLiteral? mark) := by
  intro t mark' behind h
  obtain ⟨rfl, ht⟩ := readLiteral?_eq_some_iff.1 h
  exact ht

/-! ## Finding -/

/-- What is found is read where it stands. -/
theorem read?_of_findFirst? (hsplits : read?.Splits) (h : findFirst? read? t = some found) :
    t = found.front ++ (found.mark ++ found.behind)
      ∧ read? (found.mark ++ found.behind) = some (found.mark, found.behind) := by
  induction t generalizing found with
  | nil => cases h
  | cons c t ih =>
    rw [findFirst?] at h
    split at h
    · next mark behind hread =>
      obtain rfl := Option.some.inj h
      have ht := hsplits _ _ _ hread
      exact ⟨ht, ht ▸ hread⟩
    · obtain ⟨later, hlater, rfl⟩ := Option.map_eq_some_iff.1 h
      obtain ⟨ht, hread⟩ := ih hlater
      exact ⟨by rw [List.cons_append, ← ht], hread⟩

theorem length_of_findFirst? (hsplits : read?.Splits) (h : findFirst? read? t = some found) :
    t.length = found.front.length + (found.mark.length + found.behind.length) := by
  rw [← List.length_append, ← List.length_append, ← (read?_of_findFirst? hsplits h).1]

theorem mark_of_findFirst? {mark : Text} (h : findFirst? (readLiteral? mark) t = some found) :
    found.mark = mark :=
  (readLiteral?_eq_some_iff.1 (read?_of_findFirst? (splits_readLiteral? mark) h).2).1

/-- What is not found in a text is not found in its ends. -/
theorem findFirst?_eq_none_of_suffix {b : Text} (h : findFirst? read? t = none) (hb : b <:+ t) :
    findFirst? read? b = none := by
  induction t with
  | nil => rw [List.suffix_nil.1 hb]; rfl
  | cons c t ih =>
    rcases List.suffix_cons_iff.1 hb with rfl | hb
    · exact h
    · refine ih ?_ hb
      rw [findFirst?] at h
      split at h
      · cases h
      · exact Option.map_eq_none_iff.1 h

/-! ## Searching -/

namespace Pattern

open Segment

variable {p : Pattern}

/-- Whether a pattern matches only where something can be read. -/
def Follows (p : Pattern) (read? : FrontReader) : Prop :=
  ∀ t, read? t = none → p.matchLength? t = none

/-- Whether a pattern takes what can be read and has no other choice. -/
def Reads (p : Pattern) (read? : FrontReader) : Prop :=
  ∀ k n t, p.run k n t = (read? t).bind fun found => k (n + found.1.length) found.2

theorem reads_literal (mark : Text) : (literal mark).Reads (readLiteral? mark) := by
  intro k n t
  rw [run, readLiteral?]
  cases dropStart? mark t with
  | none => rfl
  | some behind => rfl

theorem Reads.matchLength?_seq (hp : p.Reads read?) (q : Pattern) (t : Text) :
    (seq p q).matchLength? t
      = (read? t).bind fun found => q.run (fun n _ => some n) found.1.length found.2 := by
  rw [matchLength?, run, hp]
  simp only [Nat.zero_add]

theorem Reads.follows_seq (hp : p.Reads read?) (q : Pattern) : (seq p q).Follows read? := by
  intro t ht
  rw [hp.matchLength?_seq, ht]
  rfl

/-- Two literals in a row are one. -/
theorem run_literal_literal (s t : Text) (k : Continuation) (n : Nat) (text : Text) :
    (literal s).run ((literal t).run k) n text = (literal (s ++ t)).run k n text := by
  by_cases h : s ++ t <+: text
  · obtain ⟨rest, rfl⟩ := h
    rw [run_literal_append, List.append_assoc, run_literal_append, run_literal_append,
      List.length_append, Nat.add_assoc]
  · have hnone : (literal (s ++ t)).run k n text = none := run_literal_of_not_prefix h
    rw [hnone]
    by_cases hs : s <+: text
    · obtain ⟨text, rfl⟩ := hs
      rw [run_literal_append]
      exact run_literal_of_not_prefix fun ht => h ((List.prefix_append_right_inj s).2 ht)
    · exact run_literal_of_not_prefix hs

/-- A search keeps what stands in front of the first place. -/
theorem segments_of_findFirst? (hp : p.Follows read?) (hsplits : read?.Splits)
    (h : findFirst? read? t = some found) :
    p.segments t = plain found.front ++ p.segments (found.mark ++ found.behind) := by
  induction t generalizing found with
  | nil => cases h
  | cons c t ih =>
    rw [findFirst?] at h
    split at h
    · next mark behind hread =>
      obtain rfl := Option.some.inj h
      rw [hsplits _ _ _ hread]
      rfl
    · next hread =>
      obtain ⟨later, hlater, rfl⟩ := Option.map_eq_some_iff.1 h
      have hnone : ∀ n, p.matchLength? (c :: t) ≠ some (n + 1) := by simp [hp _ hread]
      rw [segments_of_no_match hnone, ih hlater]
      rfl

/-- A match at the first place is the first one of the search. -/
theorem segments_of_findFirst?_of_match (hp : p.Follows read?) (hsplits : read?.Splits)
    (h : findFirst? read? t = some found) (hne : found.mark ≠ []) {body rest : Text}
    (hbehind : found.behind = body ++ rest)
    (hmatch : p.matchLength? (found.mark ++ found.behind)
      = some (found.mark.length + body.length)) :
    p.segments t = plain found.front ++ hit (found.mark ++ body) :: p.segments rest := by
  rw [hbehind, ← List.append_assoc, ← List.length_append] at hmatch
  rw [segments_of_findFirst? hp hsplits h, hbehind, ← List.append_assoc,
    segments_append_of_match (List.append_ne_nil_of_left_ne_nil hne body) hmatch]

/-- A search keeps a text at whose ends the pattern does not match. -/
theorem segments_eq_plain (h : ∀ b, b <:+ t → p.matchLength? b = none) :
    p.segments t = plain t := by
  induction t with
  | nil => exact segments_nil p
  | cons c t ih =>
    have hnone : ∀ n, p.matchLength? (c :: t) ≠ some (n + 1) := by simp [h _ List.suffix_rfl]
    rw [segments_of_no_match hnone, ih fun b hb => h b (hb.trans (List.suffix_cons c t)),
      plain_cons]

/-- A search keeps a text in which nothing can be read. -/
theorem segments_of_findFirst?_none (hp : p.Follows read?) (hnil : read? [] = none)
    (h : findFirst? read? t = none) : p.segments t = plain t := by
  refine segments_eq_plain fun b hb => hp b ?_
  have hnone := findFirst?_eq_none_of_suffix h hb
  cases b with
  | nil => exact hnil
  | cons c b =>
    rw [findFirst?] at hnone
    split at hnone
    · cases hnone
    · next hread => exact hread

/-- **A lazy run of any characters goes up to the first place where the rest can be read.** -/
theorem runLazy_any_eq {k : Continuation} (hnil : read? [] = none)
    (hk : ∀ n t, k n t = (read? t).map fun found => n + found.1.length) (n : Nat) (t : Text) :
    runLazy .any k n t
      = (findFirst? read? t).map fun found => n + found.front.length + found.mark.length := by
  induction t generalizing n with
  | nil => rw [runLazy, hk, hnil]; rfl
  | cons c t ih =>
    rw [runLazy, hk, findFirst?]
    cases hread : read? (c :: t) with
    | some found => rfl
    | none =>
      show runLazy .any k (n + 1) t = _
      rw [ih, Option.map_map]
      refine congrArg (Option.map · (findFirst? read? t)) (funext fun found => ?_)
      show n + 1 + found.front.length + found.mark.length
        = n + (found.front.length + 1) + found.mark.length
      rw [Nat.add_assoc n, Nat.add_comm 1]

end Pattern

end TexCensus
