import Mathlib.Algebra.GroupWithZero.Nat
import TexCensus.Proofs.Pattern.Language
import TexCensus.Proofs.Text.Lines

/-!
# Patterns that stay on a line

A pattern whose literals have no line feed and whose sets of characters leave it out cannot go past
the end of a line: in front of a line feed it does what it does at the end of a text
(`Pattern.run_append_newline`). So a search for it goes line by line, and the matches in texts that
are joined by line feeds are the matches in the texts (`Pattern.hits_unlines`).
-/

namespace TexCensus.Pattern

/-! ## Staying on a line -/

/-- Whether no part of a pattern matches a line feed. -/
def staysInline : Pattern → Bool
  | literal t => !t.contains '\n'
  | one s | greedy s | lazy s => !s.has '\n'
  | wordEnd => true
  | optional p => p.staysInline
  | seq p q => p.staysInline && q.staysInline

variable {k k' : Continuation} {rest : Text}

theorem isWord_newline : Unicode.isWord '\n' = false := by decide

theorem runGreedy_append_newline {s : CharSet} (hs : s.has '\n' = false)
    (hk : ∀ m t, k m (t ++ '\n' :: rest) = k' m t) (n : Nat) (t : Text) :
    runGreedy s k n (t ++ '\n' :: rest) = runGreedy s k' n t := by
  induction t generalizing n with
  | nil =>
    have hend : k n ('\n' :: rest) = k' n [] := hk n []
    simp [runGreedy, hs, hend]
  | cons c t ih =>
    have hc : k n (c :: (t ++ '\n' :: rest)) = k' n (c :: t) := hk n (c :: t)
    rw [List.cons_append, runGreedy, runGreedy, ih, hc]

theorem runLazy_append_newline {s : CharSet} (hs : s.has '\n' = false)
    (hk : ∀ m t, k m (t ++ '\n' :: rest) = k' m t) (n : Nat) (t : Text) :
    runLazy s k n (t ++ '\n' :: rest) = runLazy s k' n t := by
  induction t generalizing n with
  | nil =>
    have hend : k n ('\n' :: rest) = k' n [] := hk n []
    rw [List.nil_append, runLazy, runLazy, hs, hend]
    cases k' n [] <;> rfl
  | cons c t ih =>
    have hc : k n (c :: (t ++ '\n' :: rest)) = k' n (c :: t) := hk n (c :: t)
    rw [List.cons_append, runLazy, runLazy, ih, hc]

/-- **A pattern that stays on a line takes a line feed for the end of the text.** -/
theorem run_append_newline {p : Pattern} (hp : p.staysInline = true)
    (hk : ∀ m t, k m (t ++ '\n' :: rest) = k' m t) (n : Nat) (t : Text) :
    p.run k n (t ++ '\n' :: rest) = p.run k' n t := by
  induction p generalizing k k' n t with
  | literal start =>
    have hstart : '\n' ∉ start := by simpa [staysInline] using hp
    rw [run, run, dropStart?_append_cons hstart]
    cases dropStart? start t with
    | none => rfl
    | some left => exact hk _ left
  | one s =>
    have hs : s.has '\n' = false := by simpa [staysInline] using hp
    cases t with
    | nil => simp [run, hs]
    | cons c t =>
      have hc : k (n + 1) (t ++ '\n' :: rest) = k' (n + 1) t := hk (n + 1) t
      rw [List.cons_append, run, run, hc]
  | greedy s => exact runGreedy_append_newline (by simpa [staysInline] using hp) hk n t
  | lazy s => exact runLazy_append_newline (by simpa [staysInline] using hp) hk n t
  | wordEnd =>
    cases t with
    | nil =>
      simp only [List.nil_append, run, isWord_newline]
      exact hk n []
    | cons c t =>
      have hc : k n (c :: (t ++ '\n' :: rest)) = k' n (c :: t) := hk n (c :: t)
      simp only [List.cons_append, run, hc]
  | optional p ih =>
    rw [run, run, ih hp hk, hk]
  | seq p q ihp ihq =>
    rw [staysInline, Bool.and_eq_true] at hp
    exact ihp hp.1 (ihq hp.2 hk) n t

/-! ## Searching line by line -/

section

variable {p : Pattern} (hp : p.staysInline = true)

include hp

theorem matchLength?_append_newline (t rest : Text) :
    p.matchLength? (t ++ '\n' :: rest) = p.matchLength? t :=
  run_append_newline hp (fun _ _ => rfl) 0 t

/-- **A search goes line by line.** -/
theorem segments_append_newline (t rest : Text) :
    p.segments (t ++ '\n' :: rest) = p.segments t ++ .kept '\n' :: p.segments rest := by
  induction h : t.length using Nat.strongRecOn generalizing t with
  | _ size ih =>
    match t with
    | [] =>
      have hnone : ∀ n, p.matchLength? ('\n' :: rest) ≠ some (n + 1) := by
        intro n hn
        have hempty : p.matchLength? [] = some (n + 1) :=
          (matchLength?_append_newline hp [] rest).symm.trans hn
        exact absurd (matchLength?_le hempty) (by simp)
      rw [List.nil_append, segments_of_no_match hnone, segments_nil, List.nil_append]
    | c :: t =>
      rw [List.length_cons] at h
      have hsame : p.matchLength? (c :: (t ++ '\n' :: rest)) = p.matchLength? (c :: t) :=
        matchLength?_append_newline hp (c :: t) rest
      rw [List.cons_append]
      by_cases hm : ∃ n, p.matchLength? (c :: t) = some (n + 1)
      · obtain ⟨n, hn⟩ := hm
        have hle : n ≤ t.length := Nat.le_of_succ_le_succ (matchLength?_le hn)
        rw [segments_of_match hn, segments_of_match (hsame.trans hn),
          List.take_append_of_le_length hle, List.drop_append_of_le_length hle,
          ih _ (by rw [List.length_drop]; omega) _ rfl, List.cons_append]
      · have hnone : ∀ n, p.matchLength? (c :: t) ≠ some (n + 1) := fun n hn => hm ⟨n, hn⟩
        rw [segments_of_no_match hnone, segments_of_no_match (hsame ▸ hnone),
          ih t.length (by omega) t rfl, List.cons_append]

theorem hits_append_newline (t rest : Text) :
    p.hits (t ++ '\n' :: rest) = p.hits t ++ p.hits rest := by
  rw [hits, segments_append_newline hp, List.filterMap_append,
    List.filterMap_cons_none (show (Segment.kept '\n').match? = none from rfl)]
  rfl

/-- **Erasing goes line by line.** -/
theorem erase_append_newline (t rest : Text) :
    p.erase (t ++ '\n' :: rest) = p.erase t ++ '\n' :: p.erase rest := by
  rw [erase, segments_append_newline hp, List.flatMap_append, List.flatMap_cons]
  rfl

/-- **The matches in joined texts are the matches in the texts.** -/
theorem hits_unlines (ts : List Text) : p.hits (unlines ts) = (ts.map p.hits).flatten := by
  induction ts with
  | nil => simp [unlines, hits]
  | cons t ts ih =>
    cases ts with
    | nil => simp [unlines]
    | cons next ts =>
      rw [unlines_cons_cons, hits_append_newline hp, ih]
      rfl

theorem countIn_unlines (ts : List Text) :
    p.countIn (unlines ts) = (ts.map p.countIn).sum := by
  rw [countIn, hits_unlines hp, List.length_flatten, List.map_map]
  rfl

end

end TexCensus.Pattern
