import TexCensus.Proofs.Markup.Cleaning
import TexCensus.Proofs.Markup.Comment

/-!
# Plain text

Comments begin with a percent sign, and what a pass removes begins with a backslash or a dollar. A
text without these three characters stays as it is, whatever the passes.
-/

namespace TexCensus

/-- Whether a text has no character that a comment or a removed span begins with. -/
structure IsPlain (t : Text) : Prop where
  /-- There is no comment. -/
  no_percent : '%' ∉ t
  /-- There is no command. -/
  no_backslash : '\\' ∉ t
  /-- There is no equation between dollars. -/
  no_dollar : '$' ∉ t

variable {t : Text}

/-! ## Comments -/

theorem uncommentLine_eq_self {line : Text} (h : '%' ∉ line) : uncommentLine line = line :=
  (isCut_uncommentLine line).eq_line_iff.2 (marksEscaped_of_not_mem h)

theorem stripComments_eq_self (h : '%' ∉ t) : stripComments t = t := by
  have hjoined : unlines (lines t) = t := joinWith_splitOn '\n' t
  have hline (line : Text) (hline : line ∈ lines t) : uncommentLine line = line := by
    refine uncommentLine_eq_self fun hpercent => h ?_
    rw [← hjoined]
    exact subset_joinWith hline hpercent
  rw [stripComments, List.map_congr_left hline, List.map_id', hjoined]

/-! ## Passes -/

open Segment in
/-- What opens a span does not stand in a plain text. -/
theorem IsPlain.not_opensSpan (h : IsPlain t) {segs : List Segment} (ht : spelled segs = t)
    {m : Text} (hm : hit m ∈ segs) : ¬OpensSpan m := by
  obtain ⟨before, after, rfl⟩ := List.append_of_mem hm
  have hmem {c : Char} (hc : m.head? = some c) : c ∈ t := by
    rw [← ht, spelled_append, spelled_hit]
    exact List.mem_append_right _ (List.mem_append_left _ (List.mem_of_head? hc))
  rintro (hbackslash | hdollar)
  · exact h.no_backslash (hmem hbackslash)
  · exact h.no_dollar (hmem hdollar)

theorem IsPlain.apply_eq_self (h : IsPlain t) (language : Text) (pass : CleaningPass) :
    pass.apply language t = t := by
  obtain ⟨segs, hremoval⟩ := pass.exists_isRemoval language t
  have hplain := Segment.eq_plain_of_no_hit fun m hm =>
    h.not_opensSpan hremoval.spelled_eq hm (hremoval.opensSpan m hm)
  rw [← hremoval.remainder_eq, hplain, Segment.remainder_plain, hremoval.spelled_eq]

/-- **Plain text is clean.** -/
theorem IsPlain.clean_eq_self (h : IsPlain t) (c : Cleaner) : c.clean t = t := by
  rw [Cleaner.clean]
  induction c.passes with
  | nil => rfl
  | cons pass passes ih => rw [List.foldl_cons, h.apply_eq_self, ih]

end TexCensus
