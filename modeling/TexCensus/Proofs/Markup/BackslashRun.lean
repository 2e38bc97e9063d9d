import Mathlib.Data.List.DropRight
import Mathlib.Data.List.Forall2
import TexCensus.Proofs.Markup.Comment

/-!
# Runs of backslashes before a percent sign

Two backslashes are a line break and escape nothing, so a percent sign is escaped by a run of
backslashes of odd length (`FollowsOddRun`). Comments are cut by the last backslash of the run alone.
The two rules differ behind a run of even length: there the percent sign stays, and the comment is
read as if it were a line of its own (`uncommentLine_of_followsBackslash`).
-/

namespace TexCensus

/-! ## The rule -/

/-- The rule that counts the backslashes directly before the percent sign. -/
def FollowsOddRun (before : Text) : Prop :=
  (before.rtakeWhile (· == '\\')).length % 2 = 1

instance : DecidablePred FollowsOddRun :=
  fun before => inferInstanceAs (Decidable ((before.rtakeWhile (· == '\\')).length % 2 = 1))

theorem not_followsOddRun_nil : ¬FollowsOddRun [] := by
  simp [FollowsOddRun]

/-- A backslash escapes the character behind it, unless it is escaped itself. -/
theorem followsOddRun_concat_iff (before : Text) (c : Char) :
    FollowsOddRun (before ++ [c]) ↔ c = '\\' ∧ ¬FollowsOddRun before := by
  unfold FollowsOddRun
  rw [List.rtakeWhile_concat]
  by_cases hc : c = '\\'
  · simp only [hc, beq_self_eq_true, if_true, List.length_append, List.length_singleton, true_and]
    omega
  · simp [hc]

theorem FollowsOddRun.followsBackslash {before : Text} (h : FollowsOddRun before) :
    FollowsBackslash before := by
  rcases List.eq_nil_or_concat' before with rfl | ⟨before, c, rfl⟩
  · exact absurd h not_followsOddRun_nil
  · obtain ⟨rfl, -⟩ := (followsOddRun_concat_iff before c).1 h
    exact List.getLast?_concat

/-! ## Lines -/

theorem followsBackslash_append_percent_iff (kept before : Text) :
    FollowsBackslash (kept ++ '%' :: before) ↔ FollowsBackslash before := by
  unfold FollowsBackslash
  rw [List.getLast?_append_of_ne_nil _ (List.cons_ne_nil '%' before), List.getLast?_cons]
  cases before.getLast? <;> simp

/-- Behind a percent sign that stays, a line is cut as if it began there. -/
theorem uncommentLine_of_followsBackslash {kept : Text} (h : MarksEscaped '%' FollowsBackslash kept)
    (hkept : FollowsBackslash kept) (comment : Text) :
    uncommentLine (kept ++ '%' :: comment) = kept ++ '%' :: uncommentLine comment := by
  have hrule : (fun before => FollowsBackslash (kept ++ '%' :: before)) = FollowsBackslash :=
    funext fun before => propext (followsBackslash_append_percent_iff kept before)
  have hcut : IsCut '%' FollowsBackslash (kept ++ '%' :: comment)
      (kept ++ '%' :: uncommentLine comment) := by
    refine IsCut.append_mark h hkept ?_
    rw [hrule]
    exact isCut_uncommentLine comment
  exact (isCut_uncommentLine _).unique hcut

theorem uncommentLine_of_isCut {line kept : Text} (h : IsCut '%' FollowsOddRun line kept) :
    uncommentLine line = kept ∨ ∃ comment, line = kept ++ '%' :: comment ∧ FollowsBackslash kept
      ∧ uncommentLine line = kept ++ '%' :: uncommentLine comment := by
  have hescaped := h.marksEscaped.mono fun _ => FollowsOddRun.followsBackslash
  cases h with
  | whole => exact .inl ((isCut_uncommentLine line).eq_line_iff.2 hescaped)
  | comment comment =>
    by_cases hback : FollowsBackslash kept
    · exact .inr ⟨comment, rfl, hback, uncommentLine_of_followsBackslash hescaped hback comment⟩
    · exact .inl ((isCut_uncommentLine _).unique (.comment comment hescaped hback))

theorem isCut_followsOddRun_uncommentLine_iff (line : Text) :
    IsCut '%' FollowsOddRun line (uncommentLine line)
      ↔ ∀ kept comment, line = kept ++ '%' :: comment → IsCut '%' FollowsOddRun line kept →
          ¬FollowsBackslash kept := by
  constructor
  · rintro h kept comment rfl hkept hback
    have hescaped := hkept.marksEscaped.mono fun _ => FollowsOddRun.followsBackslash
    rw [uncommentLine_of_followsBackslash hescaped hback] at h
    exact absurd (hkept.unique h) (by simp)
  · intro h
    obtain ⟨kept, hkept⟩ := IsCut.exists_kept '%' FollowsOddRun line
    rcases uncommentLine_of_isCut hkept with heq | ⟨comment, hline, hback, -⟩
    · rwa [heq]
    · exact absurd hback (h kept comment hline hkept)

/-- **Where comments end up.** Every line of a text is cut at its first percent sign that does not
follow an odd run of backslashes, or else an even run stands there: then the percent sign stays, and
of the comment what a line of its own would keep. All lines are cut right exactly when no comment
begins behind a backslash. -/
theorem stripComments_backslashRuns (t : Text) :
    List.Forall₂ (fun line out => ∀ kept, IsCut '%' FollowsOddRun line kept →
        out = kept ∨ ∃ comment, line = kept ++ '%' :: comment ∧ FollowsBackslash kept
          ∧ out = kept ++ '%' :: uncommentLine comment)
      (lines t) (lines (stripComments t))
      ∧ (List.Forall₂ (IsCut '%' FollowsOddRun) (lines t) (lines (stripComments t))
          ↔ ∀ line ∈ lines t, ∀ kept comment, line = kept ++ '%' :: comment →
              IsCut '%' FollowsOddRun line kept → ¬FollowsBackslash kept) := by
  rw [lines_stripComments, List.forall₂_map_right_iff, List.forall₂_map_right_iff,
    List.forall₂_same, List.forall₂_same]
  constructor
  · intro line _ kept hkept
    exact uncommentLine_of_isCut hkept
  · exact forall₂_congr fun line _ => isCut_followsOddRun_uncommentLine_iff line

/-- Behind a line break the comment stays. -/
theorem stripComments_percent_behind_lineBreak :
    stripComments "\\\\% x".toList = "\\\\% x".toList
      ∧ IsCut '%' FollowsOddRun "\\\\% x".toList "\\\\".toList
      ∧ ¬List.Forall₂ (IsCut '%' FollowsOddRun) (lines "\\\\% x".toList)
          (lines (stripComments "\\\\% x".toList)) := by
  have hkept : stripComments "\\\\% x".toList = "\\\\% x".toList := by decide
  have hlines : lines "\\\\% x".toList = ["\\\\% x".toList] := by decide
  have hclean : '%' ∉ "\\\\".toList := by decide
  have heven : ¬FollowsOddRun "\\\\".toList := by decide
  have hcut : IsCut '%' FollowsOddRun "\\\\% x".toList "\\\\".toList :=
    .comment " x".toList (marksEscaped_of_not_mem hclean) heven
  refine ⟨hkept, hcut, ?_⟩
  rw [hkept, hlines, List.forall₂_cons]
  rintro ⟨hwhole, -⟩
  exact absurd (hcut.unique hwhole) (by decide)

end TexCensus
