import TexCensus.Pattern.Search
import Mathlib.Data.List.Infix

/-!
# Matching in front of a given text

What the parts of a pattern do in front of a text whose shape is known. A literal goes past itself
and refuses any other front. A lazy run goes past every text at whose suffixes the rest of the
pattern refuses (`runLazy_append`), and fails where the rest refuses everywhere
(`runLazy_eq_none`).
-/

namespace TexCensus.Pattern

variable {k : Continuation} {n : Nat}

/-! ## Literals -/

/-- A beginning does not go past a character that it does not have. -/
theorem dropStart?_append_cons {c : Char} {start : Text} (h : c ∉ start) (t rest : Text) :
    dropStart? start (t ++ c :: rest) = (dropStart? start t).map (· ++ c :: rest) := by
  induction start generalizing t with
  | nil => rfl
  | cons d start ih =>
    rw [List.mem_cons, not_or] at h
    cases t with
    | nil => simp [dropStart?, Ne.symm h.1]
    | cons e t =>
      rw [List.cons_append, dropStart?, dropStart?]
      split
      · exact ih h.2 t
      · rfl

theorem run_literal_append (t rest : Text) :
    (literal t).run k n (t ++ rest) = k (n + t.length) rest := by
  have h : dropStart? t (t ++ rest) = some rest := dropStart?_eq_some_iff.mpr rfl
  simp [run, h]

theorem run_literal_of_not_prefix {t text : Text} (h : ¬t <+: text) :
    (literal t).run k n text = none := by
  rw [run]
  cases hd : dropStart? t text with
  | none => rfl
  | some rest =>
    rw [dropStart?_eq_some_iff] at hd
    exact absurd ⟨rest, hd.symm⟩ h

@[simp] theorem run_literal_cons (c : Char) (rest : Text) :
    (literal [c]).run k n (c :: rest) = k (n + 1) rest :=
  run_literal_append [c] rest

theorem run_literal_of_head {c : Char} {text : Text} (h : text.head? ≠ some c) :
    (literal [c]).run k n text = none := by
  refine run_literal_of_not_prefix ?_
  rintro ⟨rest, rfl⟩
  exact h rfl

/-! ## Optional parts -/

theorem run_optional_of_some {p : Pattern} {text : Text} {m : Nat}
    (h : p.run k n text = some m) : (optional p).run k n text = some m := by
  rw [run, h]

theorem run_optional_of_none {p : Pattern} {text : Text} (h : p.run k n text = none) :
    (optional p).run k n text = k n text := by
  rw [run, h]

/-! ## Greedy runs -/

/-- A greedy run with nothing behind it takes everything it can. -/
theorem runGreedy_all (s : CharSet) (n : Nat) (t : Text) :
    runGreedy s (fun n _ => some n) n t = some (n + (t.takeWhile s.has).length) := by
  induction t generalizing n with
  | nil => rfl
  | cons c t ih =>
    rw [runGreedy, ih, List.takeWhile_cons]
    split
    · rw [List.length_cons, Nat.add_assoc, Nat.add_comm 1]
    · rfl

/-- A greedy run ends where no character of its set follows, if the rest of the pattern goes on
there. -/
theorem runGreedy_append {s : CharSet} {t rest : Text} {m : Nat} (hs : ∀ c ∈ t, s.has c)
    (hrest : ∀ c ∈ rest.head?, s.has c = false) (hk : k (n + t.length) rest = some m) :
    runGreedy s k n (t ++ rest) = some m := by
  induction t generalizing n with
  | nil =>
    cases rest with
    | nil => exact hk
    | cons c rest =>
      rw [List.nil_append, runGreedy, hrest c rfl]
      exact hk
  | cons c t ih =>
    rw [List.forall_mem_cons] at hs
    have ht : runGreedy s k (n + 1) (t ++ rest) = some m := by
      refine ih hs.2 ?_
      rw [← hk, List.length_cons, Nat.add_assoc, Nat.add_comm 1]
    rw [List.cons_append, runGreedy, if_pos hs.1, ht]

/-! ## Lazy runs -/

/-- A lazy run goes past a text at whose suffixes the rest of the pattern refuses. -/
theorem runLazy_append {s : CharSet} {t rest : Text} (hs : ∀ c ∈ t, s.has c)
    (hk : ∀ b, b <:+ t → b ≠ [] → ∀ m, k m (b ++ rest) = none) :
    runLazy s k n (t ++ rest) = runLazy s k (n + t.length) rest := by
  induction t generalizing n with
  | nil => simp
  | cons c t ih =>
    have hc : k n (c :: (t ++ rest)) = none := hk (c :: t) (List.suffix_refl _) (by simp) n
    rw [List.cons_append, runLazy, hc]
    simp only [hs c (by simp), if_true]
    rw [ih (fun d hd => hs d (by simp [hd]))
      (fun b hb => hk b (hb.trans (List.suffix_cons c t)))]
    simp [Nat.add_assoc, Nat.add_comm 1]

/-- A lazy run stops where the rest of the pattern goes on. -/
theorem runLazy_of_some {s : CharSet} {t : Text} {m : Nat} (h : k n t = some m) :
    runLazy s k n t = some m := by
  cases t with
  | nil => rw [runLazy, h]
  | cons c t => rw [runLazy, h]

/-- A lazy run fails if the rest of the pattern refuses at every suffix. -/
theorem runLazy_eq_none {s : CharSet} {t : Text} (hk : ∀ b, b <:+ t → ∀ m, k m b = none) :
    runLazy s k n t = none := by
  induction t generalizing n with
  | nil => exact hk [] (List.suffix_refl _) n
  | cons c t ih =>
    have hc : k n (c :: t) = none := hk (c :: t) (List.suffix_refl _) n
    have ht : runLazy s k (n + 1) t = none :=
      ih fun b hb => hk b (hb.trans (List.suffix_cons c t))
    rw [runLazy, hc]
    simp [ht]

/-! ## Searching -/

/-- A match at the front is the first segment. -/
theorem segments_append_of_match {p : Pattern} {g rest : Text} (hne : g ≠ [])
    (h : p.matchLength? (g ++ rest) = some g.length) :
    p.segments (g ++ rest) = .hit g :: p.segments rest := by
  obtain ⟨c, g, rfl⟩ := List.exists_cons_of_ne_nil hne
  rw [List.cons_append] at h ⊢
  rw [segments_of_match h, List.take_left, List.drop_left]

@[simp] theorem hits_nil (p : Pattern) : p.hits [] = [] := by
  simp [hits]

theorem hits_append_of_match {p : Pattern} {g rest : Text} (hne : g ≠ [])
    (h : p.matchLength? (g ++ rest) = some g.length) : p.hits (g ++ rest) = g :: p.hits rest := by
  rw [hits, segments_append_of_match hne h, List.filterMap_cons_some (by rfl), hits]

theorem hits_of_no_match {p : Pattern} {c : Char} {rest : Text}
    (h : ∀ n, p.matchLength? (c :: rest) ≠ some (n + 1)) : p.hits (c :: rest) = p.hits rest := by
  rw [hits, segments_of_no_match h, List.filterMap_cons_none (by rfl), hits]

theorem erase_of_no_match {p : Pattern} {c : Char} {rest : Text}
    (h : ∀ n, p.matchLength? (c :: rest) ≠ some (n + 1)) :
    p.erase (c :: rest) = c :: p.erase rest := by
  rw [erase, segments_of_no_match h, List.flatMap_cons, erase]
  rfl

/-- Where the first character of its matches is missing, a pattern has nothing to erase. -/
theorem erase_of_not_mem {c : Char} {start t : Text} (q : Pattern) (h : c ∉ t) :
    (seq (literal (c :: start)) q).erase t = t := by
  induction t with
  | nil => simp [erase]
  | cons d t ih =>
    rw [List.mem_cons, not_or] at h
    have hnone : (seq (literal (c :: start)) q).matchLength? (d :: t) = none :=
      run_literal_of_not_prefix fun hprefix => h.1 (List.cons_prefix_cons.1 hprefix).1
    rw [erase_of_no_match (by simp [hnone]), ih h.2]

end TexCensus.Pattern
