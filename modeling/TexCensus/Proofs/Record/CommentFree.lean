import Mathlib.Data.List.Forall2
import TexCensus.Analysis
import TexCensus.Proofs.Markup.Comment

/-!
# Comment-free texts and their records

A record is made of what a text says without its comments, so a text and the same text without
comments have one record, whatever the analysis (`Analysis.record_stripComments`). What a text says
without its comments is settled line by line (`isLongestCommentFree_iff`).
-/

namespace TexCensus

/-- The longest beginning of a line in which every percent sign directly follows a backslash. -/
structure IsLongestCommentFree (line kept : Text) : Prop where
  isPrefix : kept <+: line
  commentFree : MarksEscaped '%' FollowsBackslash kept
  longest : ∀ s, s <+: line → MarksEscaped '%' FollowsBackslash s → s.length ≤ kept.length

theorem isLongestCommentFree_iff {line kept : Text} :
    IsLongestCommentFree line kept ↔ kept = uncommentLine line := by
  have hcut := isCut_uncommentLine line
  constructor
  · intro h
    have hle : kept <+: uncommentLine line :=
      hcut.prefix_of_marksEscaped h.isPrefix h.commentFree
    exact hle.eq_of_length_le (h.longest _ hcut.isPrefix hcut.marksEscaped)
  · rintro rfl
    refine ⟨hcut.isPrefix, hcut.marksEscaped, ?_⟩
    intro s hs hfree
    exact (hcut.prefix_of_marksEscaped hs hfree).length_le

theorem forall₂_isLongestCommentFree (t : Text) :
    List.Forall₂ IsLongestCommentFree (lines t) (lines (stripComments t)) := by
  rw [lines_stripComments, List.forall₂_map_right_iff, List.forall₂_same]
  intro line _
  exact isLongestCommentFree_iff.2 rfl

namespace Analysis

variable (a : Analysis)

theorem words_stripComments (t : Text) : a.words (stripComments t) = a.words t := by
  rw [words, stripComments_stripComments, words]

theorem trace_stripComments (t : Text) : a.trace (stripComments t) = a.trace t := by
  rw [trace, stripComments_stripComments, trace]

/-- **Comments leave no mark on a record**, in its counts as little as in its corrections. -/
theorem record_stripComments (snapshot : Snapshot) (t : Text) :
    a.record snapshot (stripComments t) = a.record snapshot t := by
  have hmarkup : Markup.counts (stripComments (stripComments t)) = Markup.counts (stripComments t) := by
    rw [stripComments_stripComments]
  rw [record, record, uncorrected, uncorrected, words_stripComments, hmarkup]

end Analysis

/-- **Stripping comments**, on every text: it keeps the line feeds and of each line the longest
beginning without a comment. So it does nothing to its own results, goes line by line, and comes
before any record without changing it. -/
theorem stripComments_longest (t : Text) :
    (stripComments t).count '\n' = t.count '\n'
      ∧ List.Forall₂ IsLongestCommentFree (lines t) (lines (stripComments t))
      ∧ stripComments (stripComments t) = stripComments t
      ∧ (∀ front back : Text, stripComments (front ++ '\n' :: back)
          = stripComments front ++ '\n' :: stripComments back)
      ∧ ∀ (a : Analysis) (snapshot : Snapshot),
          a.record snapshot (stripComments t) = a.record snapshot t
            ∧ a.trace (stripComments t) = a.trace t := by
  refine ⟨count_newline_stripComments t, forall₂_isLongestCommentFree t,
    stripComments_stripComments t, stripComments_append_newline, ?_⟩
  intro a snapshot
  exact ⟨a.record_stripComments snapshot t, a.trace_stripComments t⟩

end TexCensus
