import Mathlib.Logic.Basic
import TexCensus.Markup.Comment
import TexCensus.Proofs.Text.Lines

/-!
# Comments and lines

What is left of a line is said by a relation: `IsCut mark escapes line kept` cuts a line at its first
mark that a rule on what stands before it does not escape. There is exactly one such cut, and it is
the longest beginning in which every mark is escaped. Comments are cut by the rule that looks at one
character (`isCut_uncommentLine`).

Comments end with their line, so texts that are joined by line feeds lose their comments one by one
(`stripComments_unlines`).
-/

namespace TexCensus

/-! ## Cutting at the first mark that is not escaped -/

section IsCut

variable {α : Type} {mark : α} {escapes escapes' : List α → Prop} {s t line kept kept' : List α}

/-- Every mark of a sequence is escaped, as the rule says of what stands before it. -/
def MarksEscaped (mark : α) (escapes : List α → Prop) (t : List α) : Prop :=
  ∀ before after, t = before ++ mark :: after → escapes before

/-- What is kept of a line that is cut at its first mark that is not escaped. -/
inductive IsCut (mark : α) (escapes : List α → Prop) : List α → List α → Prop
  | whole {line : List α} (h : MarksEscaped mark escapes line) : IsCut mark escapes line line
  | comment {kept : List α} (comment : List α) (h : MarksEscaped mark escapes kept)
      (hmark : ¬escapes kept) : IsCut mark escapes (kept ++ mark :: comment) kept

theorem marksEscaped_of_not_mem (h : mark ∉ t) : MarksEscaped mark escapes t := by
  rintro before after rfl
  simp at h

theorem marksEscaped_cons_iff {c : α} :
    MarksEscaped mark escapes (c :: t)
      ↔ (c = mark → escapes []) ∧ MarksEscaped mark (fun before => escapes (c :: before)) t := by
  constructor
  · intro h
    refine ⟨?_, ?_⟩
    · rintro rfl
      exact h [] t rfl
    · rintro before after rfl
      exact h (c :: before) after rfl
  · rintro ⟨hfirst, hrest⟩ before after heq
    rcases List.cons_eq_append_iff.1 heq with ⟨rfl, hmark⟩ | ⟨before, rfl, rfl⟩
    · exact hfirst (List.cons.inj hmark).1.symm
    · exact hrest before after rfl

theorem MarksEscaped.mono (himp : ∀ before, escapes before → escapes' before)
    (h : MarksEscaped mark escapes t) : MarksEscaped mark escapes' t :=
  fun before after heq => himp before (h before after heq)

namespace IsCut

theorem marksEscaped (h : IsCut mark escapes line kept) : MarksEscaped mark escapes kept := by
  cases h with
  | whole h => exact h
  | comment _ h => exact h

theorem isPrefix (h : IsCut mark escapes line kept) : kept <+: line := by
  cases h with
  | whole => exact List.prefix_refl line
  | comment => exact List.prefix_append kept _

/-- No beginning with escaped marks is longer than the cut. -/
theorem prefix_of_marksEscaped (h : IsCut mark escapes line kept) (hs : s <+: line)
    (hescaped : MarksEscaped mark escapes s) : s <+: kept := by
  cases h with
  | whole => exact hs
  | comment comment _ hmark =>
    rcases List.prefix_or_prefix_of_prefix hs (List.prefix_append kept _) with hshort | ⟨rest, rfl⟩
    · exact hshort
    -- Beyond the cut the beginning would hold the mark itself, which is not escaped.
    cases rest with
    | nil => simp
    | cons c rest =>
      obtain rfl : c = mark := (List.cons_prefix_cons.1 ((List.prefix_append_right_inj kept).1 hs)).1
      exact absurd (hescaped kept rest rfl) hmark

theorem unique (h : IsCut mark escapes line kept) (h' : IsCut mark escapes line kept') :
    kept = kept' :=
  (h'.prefix_of_marksEscaped h.isPrefix h.marksEscaped).eq_of_length_le
    (h.prefix_of_marksEscaped h'.isPrefix h'.marksEscaped).length_le

theorem eq_line_iff (h : IsCut mark escapes line kept) :
    kept = line ↔ MarksEscaped mark escapes line := by
  constructor
  · rintro rfl
    exact h.marksEscaped
  · intro hline
    exact h.unique (.whole hline)

theorem cons {c : α} (h : IsCut mark (fun before => escapes (c :: before)) line kept)
    (hc : c = mark → escapes []) : IsCut mark escapes (c :: line) (c :: kept) := by
  cases h with
  | whole h => exact .whole (marksEscaped_cons_iff.2 ⟨hc, h⟩)
  | comment comment h hmark => exact .comment comment (marksEscaped_cons_iff.2 ⟨hc, h⟩) hmark

/-- Behind an escaped mark the cut is that of the rest, by the rule that knows what stands before. -/
theorem append_mark {front : List α} (hfront : MarksEscaped mark escapes front)
    (hmark : escapes front)
    (h : IsCut mark (fun before => escapes (front ++ mark :: before)) line kept) :
    IsCut mark escapes (front ++ mark :: line) (front ++ mark :: kept) := by
  induction front generalizing escapes with
  | nil => exact h.cons fun _ => hmark
  | cons c front ih =>
    obtain ⟨hc, hrest⟩ := marksEscaped_cons_iff.1 hfront
    exact (ih hrest hmark h).cons hc

theorem exists_kept (mark : α) (escapes : List α → Prop) (line : List α) :
    ∃ kept, IsCut mark escapes line kept := by
  induction line generalizing escapes with
  | nil => exact ⟨[], .whole (marksEscaped_of_not_mem List.not_mem_nil)⟩
  | cons c line ih =>
    by_cases hc : c = mark → escapes []
    · obtain ⟨kept, hkept⟩ := ih fun before => escapes (c :: before)
      exact ⟨c :: kept, hkept.cons hc⟩
    · obtain ⟨rfl, hmark⟩ := Classical.not_imp.1 hc
      exact ⟨[], .comment line (marksEscaped_of_not_mem List.not_mem_nil) hmark⟩

end IsCut

end IsCut

/-! ## The comment of a line -/

/-- The rule that looks at one character. -/
def FollowsBackslash (before : Text) : Prop :=
  before.getLast? = some '\\'

/-- A line without its comment, if a given character stands before the line. -/
def uncommentFrom (previous : Char) (line : Text) : Text :=
  ((line.zip (previous :: line)).takeWhile fun (c, previous) => keepsLine c previous).map Prod.fst

theorem uncommentFrom_cons (previous c : Char) (line : Text) :
    uncommentFrom previous (c :: line)
      = if keepsLine c previous then c :: uncommentFrom c line else [] := by
  rw [uncommentFrom, List.zip_cons_cons, List.takeWhile_cons, apply_ite (List.map Prod.fst)]
  rfl

theorem isCut_uncommentFrom (previous : Char) (line : Text) :
    IsCut '%' (fun before => before.getLast?.getD previous = '\\') line
      (uncommentFrom previous line) := by
  induction line generalizing previous with
  | nil => exact .whole (marksEscaped_of_not_mem List.not_mem_nil)
  | cons c line ih =>
    have hc : keepsLine c previous = true ↔ (c = '%' → previous = '\\') := by
      simp [keepsLine, imp_iff_not_or]
    rw [uncommentFrom_cons]
    split
    · next hkeeps =>
      refine IsCut.cons ?_ (hc.1 hkeeps)
      -- Behind the first character the rule is the one that starts from that character.
      simpa only [List.getLast?_cons, Option.getD_some] using ih c
    · next hcut =>
      obtain ⟨rfl, hprevious⟩ := Classical.not_imp.1 (mt hc.2 hcut)
      exact .comment line (marksEscaped_of_not_mem List.not_mem_nil) hprevious

/-- **A line is cut at its first percent sign that does not follow a backslash.** -/
theorem isCut_uncommentLine (line : Text) :
    IsCut '%' FollowsBackslash line (uncommentLine line) := by
  have hrule : (fun before : Text => before.getLast?.getD '\n' = '\\') = FollowsBackslash := by
    funext before
    cases hlast : before.getLast? <;> simp [FollowsBackslash, hlast]
  exact hrule ▸ isCut_uncommentFrom '\n' line

theorem uncommentLine_uncommentLine (line : Text) :
    uncommentLine (uncommentLine line) = uncommentLine line :=
  (isCut_uncommentLine (uncommentLine line)).eq_line_iff.2 (isCut_uncommentLine line).marksEscaped

/-! ## Lines -/

theorem map_uncommentLine_ne_nil (t : Text) : (lines t).map uncommentLine ≠ [] := by
  rw [ne_eq, List.map_eq_nil_iff]
  exact splitOn_ne_nil '\n' t

theorem lines_stripComments (t : Text) : lines (stripComments t) = (lines t).map uncommentLine := by
  refine lines_unlines (map_uncommentLine_ne_nil t) ?_
  intro kept hkept
  obtain ⟨line, hline, rfl⟩ := List.mem_map.1 hkept
  intro hnewline
  exact not_mem_of_mem_splitOn hline ((isCut_uncommentLine line).isPrefix.subset hnewline)

theorem count_newline_stripComments (t : Text) : (stripComments t).count '\n' = t.count '\n' := by
  have hlength : (lines (stripComments t)).length = (lines t).length := by
    rw [lines_stripComments, List.length_map]
  rw [length_lines, length_lines] at hlength
  exact Nat.succ.inj hlength

theorem stripComments_stripComments (t : Text) :
    stripComments (stripComments t) = stripComments t := by
  have hlines : (lines (stripComments t)).map uncommentLine = (lines t).map uncommentLine := by
    rw [lines_stripComments, List.map_map]
    exact List.map_congr_left fun line _ => uncommentLine_uncommentLine line
  rw [stripComments, hlines, stripComments]

/-- **A comment ends with its line.** -/
theorem stripComments_append_newline (t rest : Text) :
    stripComments (t ++ '\n' :: rest) = stripComments t ++ '\n' :: stripComments rest := by
  have hlines : lines (t ++ '\n' :: rest) = lines t ++ lines rest := splitOn_append '\n' t rest
  rw [stripComments, hlines, List.map_append,
    unlines_append (map_uncommentLine_ne_nil t) (map_uncommentLine_ne_nil rest)]
  rfl

/-- **Joined texts lose their comments one by one.** -/
theorem stripComments_unlines (ts : List Text) :
    stripComments (unlines ts) = unlines (ts.map stripComments) := by
  induction ts with
  | nil => rfl
  | cons t ts ih =>
    cases ts with
    | nil => simp [unlines]
    | cons next ts =>
      rw [unlines_cons_cons, stripComments_append_newline, ih]
      exact (unlines_cons_cons (stripComments t) (stripComments next) _).symm

end TexCensus
