import TexCensus.Text.Basic

/-!
# Joined lines

Splitting and joining respect concatenation: a separator ends a part (`splitOn_append`), and lists
of lines are joined one after the other (`unlines_append`). A list of lines is what its joined text
is split into, if no line holds a line feed (`lines_unlines`).
-/

namespace TexCensus

theorem unlines_cons_cons (t next : Text) (ts : List Text) :
    unlines (t :: next :: ts) = t ++ '\n' :: unlines (next :: ts) := by
  rw [unlines, joinWith_cons_cons, List.append_assoc]
  rfl

theorem consFirst_append (c : Char) {parts : List Text} (h : parts ≠ []) (others : List Text) :
    consFirst c (parts ++ others) = consFirst c parts ++ others := by
  cases parts with
  | nil => exact absurd rfl h
  | cons part parts => rfl

/-- A separator ends a part. -/
theorem splitOn_append (sep : Char) (t rest : Text) :
    splitOn sep (t ++ sep :: rest) = splitOn sep t ++ splitOn sep rest := by
  induction t with
  | nil => simp [splitOn_cons]
  | cons c t ih =>
    rw [List.cons_append, splitOn_cons, splitOn_cons, ih]
    split
    · rfl
    · exact consFirst_append c (splitOn_ne_nil sep t) _

/-- Parts that are joined one after the other have a separator between them. -/
theorem joinWith_append (sep : Text) {xs ys : List Text} (hx : xs ≠ []) (hy : ys ≠ []) :
    joinWith sep (xs ++ ys) = joinWith sep xs ++ sep ++ joinWith sep ys := by
  obtain ⟨y, ys, rfl⟩ := List.exists_cons_of_ne_nil hy
  induction xs with
  | nil => exact absurd rfl hx
  | cons x xs ih =>
    cases xs with
    | nil => rw [List.singleton_append, joinWith_cons_cons, joinWith_singleton]
    | cons next xs =>
      rw [List.cons_append, List.cons_append, joinWith_cons_cons, ← List.cons_append, ih (by simp),
        joinWith_cons_cons]
      simp only [List.append_assoc]

/-- Lists of lines are joined one after the other. -/
theorem unlines_append {xs ys : List Text} (hx : xs ≠ []) (hy : ys ≠ []) :
    unlines (xs ++ ys) = unlines xs ++ '\n' :: unlines ys := by
  rw [unlines, joinWith_append _ hx hy, List.append_assoc]
  rfl

/-! ## Lines hold no line feed -/

theorem splitOn_eq_listSplitOn (sep : Char) (t : Text) : splitOn sep t = t.splitOn sep := by
  induction t with
  | nil => rfl
  | cons c t ih =>
    rw [splitOn_cons, List.splitOn_cons_eq_if_modifyHead, ih]
    obtain ⟨part, parts, hparts⟩ := List.exists_cons_of_ne_nil (ih ▸ splitOn_ne_nil sep t)
    rw [hparts]
    simp only [beq_iff_eq]
    rfl

theorem lines_unlines {ls : List Text} (hne : ls ≠ []) (h : ∀ line ∈ ls, '\n' ∉ line) :
    lines (unlines ls) = ls := by
  rw [lines, splitOn_eq_listSplitOn]
  exact List.splitOn_intercalate '\n' h hne

theorem not_mem_of_mem_splitOn {sep : Char} {t part : Text} (h : part ∈ splitOn sep t) :
    sep ∉ part := by
  induction t generalizing part with
  | nil =>
    obtain rfl : part = [] := List.mem_singleton.1 h
    exact List.not_mem_nil
  | cons c t ih =>
    obtain ⟨first, parts, hparts⟩ := List.exists_cons_of_ne_nil (splitOn_ne_nil sep t)
    rw [hparts] at ih
    rw [splitOn_cons, hparts] at h
    split at h
    · rcases List.mem_cons.1 h with rfl | h
      · exact List.not_mem_nil
      · exact ih h
    · next hc =>
      rcases List.mem_cons.1 h with rfl | h
      · rw [List.mem_cons, not_or]
        exact ⟨Ne.symm hc, ih List.mem_cons_self⟩
      · exact ih (List.mem_cons_of_mem first h)

/-- A text has one line more than line feeds. -/
theorem length_lines (t : Text) : (lines t).length = t.count '\n' + 1 := by
  unfold lines
  induction t with
  | nil => rfl
  | cons c t ih =>
    obtain ⟨first, parts, hparts⟩ := List.exists_cons_of_ne_nil (splitOn_ne_nil '\n' t)
    rw [splitOn_cons, List.count_cons, ← Nat.add_right_comm, ← ih, hparts]
    by_cases hc : c = '\n' <;> simp [hc, consFirst]

/-! ## Characters of parts -/

/-- A joined text has the characters of its parts. -/
theorem subset_joinWith {sep part : Text} {parts : List Text} (h : part ∈ parts) :
    part ⊆ joinWith sep parts := by
  induction parts with
  | nil => cases h
  | cons first parts ih =>
    cases parts with
    | nil =>
      rw [List.mem_singleton.1 h, joinWith_singleton]
      exact List.Subset.refl first
    | cons next parts =>
      rw [joinWith_cons_cons]
      rcases List.mem_cons.1 h with rfl | h
      · exact List.subset_append_of_subset_left _ (List.subset_append_left part sep)
      · exact List.subset_append_of_subset_right _ (ih h)

/-- A joined text has no characters but those of its parts and of the separator. -/
theorem mem_of_mem_joinWith {sep : Text} {parts : List Text} {c : Char}
    (h : c ∈ joinWith sep parts) : c ∈ sep ∨ ∃ part ∈ parts, c ∈ part := by
  induction parts with
  | nil => simp at h
  | cons first parts ih =>
    cases parts with
    | nil => exact .inr ⟨first, List.mem_cons_self, by simpa using h⟩
    | cons next parts =>
      rw [joinWith_cons_cons, List.mem_append, List.mem_append] at h
      rcases h with (h | h) | h
      · exact .inr ⟨first, List.mem_cons_self, h⟩
      · exact .inl h
      · exact (ih h).imp_right fun ⟨part, hpart, hc⟩ => ⟨part, List.mem_cons_of_mem first hpart, hc⟩

end TexCensus
