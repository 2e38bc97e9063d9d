import TexCensus.Markup.Cleaning
import TexCensus.Proofs.Pattern.Stretches

/-!
# What a pass leaves

A pass removes spans that begin with a backslash or a dollar, and in the stretches of text between
them none of its patterns matches (`CleaningPass.exists_isRemoval`). So whatever its patterns still
match in the text that is left goes over a place where something was removed, and a pass that
removes nothing had nothing to match (`CleaningPass.apply_leaves`).

Where a pass erases several patterns one after another, none of them looks behind its match. A word
end that does is used by passes of one pattern only: there the span behind a stretch begins with no
character of words, so a word that ends with the stretch ended in the text as well.
-/

namespace TexCensus

open Segment

/-! ## Spans -/

/-- Whether a text begins with a backslash or a dollar. -/
def OpensSpan (t : Text) : Prop :=
  t.head? = some '\\' ∨ t.head? = some '$'

instance (t : Text) : Decidable (OpensSpan t) :=
  inferInstanceAs (Decidable (_ ∨ _))

theorem OpensSpan.ne_nil {t : Text} (h : OpensSpan t) : t ≠ [] := by
  rintro rfl
  simp [OpensSpan] at h

theorem OpensSpan.append {t : Text} (h : OpensSpan t) (rest : Text) : OpensSpan (t ++ rest) := by
  rwa [OpensSpan, List.head?_append_of_ne_nil t h.ne_nil]

theorem OpensSpan.beginsWord {t : Text} (h : OpensSpan t) : Pattern.beginsWord t = false := by
  rcases h with h | h <;> rw [Pattern.beginsWord, h] <;> decide

namespace Pattern

/-- Whether a pattern takes only texts that begin with a backslash or a dollar. -/
def OpensSpans (p : Pattern) : Prop :=
  ∀ taken rest, p.Takes taken rest → OpensSpan taken

variable {p q : Pattern}

theorem opensSpans_literal {t : Text} (h : OpensSpan t) : (literal t).OpensSpans := by
  rintro taken rest rfl
  exact h

theorem OpensSpans.seq (h : p.OpensSpans) (q : Pattern) : (Pattern.seq p q).OpensSpans := by
  rintro taken rest ⟨a, b, rfl, ha, -⟩
  exact (h a _ ha).append b

theorem OpensSpans.optional_seq (hp : p.OpensSpans) (hq : q.OpensSpans) :
    (Pattern.seq (optional p) q).OpensSpans := by
  rintro taken rest ⟨a, b, rfl, ha | rfl, hb⟩
  · exact (hp a _ ha).append b
  · exact hq b rest hb

theorem OpensSpans.not_takes_nil (h : p.OpensSpans) (rest : Text) : ¬p.Takes [] rest :=
  fun hnil => (h [] rest hnil).ne_nil rfl

theorem OpensSpans.hit (h : p.OpensSpans) {t m : Text} (hm : .hit m ∈ p.segments t) :
    OpensSpan m := by
  obtain ⟨before, after, hsegs⟩ := List.append_of_mem hm
  exact h m _ (takes_of_matchLength?_append (matchLength?_of_hit hsegs).2)

end Pattern

/-! ## Removals -/

/-- Segments of a text that show what was removed to leave another one. -/
structure IsRemoval (ps : List Pattern) (t left : Text) (segs : List Segment) : Prop where
  /-- The segments make up the text. -/
  spelled_eq : spelled segs = t
  /-- What they keep is left. -/
  remainder_eq : remainder segs = left
  /-- Every span begins with a backslash or a dollar. -/
  opensSpan : ∀ span, hit span ∈ segs → OpensSpan span
  /-- No pattern matches in a stretch between spans. -/
  hits_eq_nil : ∀ s ∈ stretches segs, ∀ p ∈ ps, p.hits s = []

variable {ps : List Pattern} {p : Pattern} {t left : Text} {segs : List Segment}

/-- What a pattern still matches in the text that is left goes over a place where something was
removed. -/
theorem IsRemoval.seamIn (h : IsRemoval ps t left segs) (hp : p ∈ ps) (hopens : p.OpensSpans)
    {found : Nat × Text} (hfound : found ∈ p.placedHits left) :
    SeamIn segs found.1 found.2.length := by
  obtain ⟨a, b, hleft, hplace, hne, hmatch⟩ := Pattern.exists_of_mem_placedHits hfound
  have htakes : p.Takes found.2 b := Pattern.takes_of_matchLength?_append hmatch
  rw [← h.remainder_eq] at hleft
  rcases mem_stretches_or_seamIn hne hleft with ⟨s, hs, a', b', rfl, hb'⟩ | hseam
  · -- In the stretch the pattern sees no more of words behind the match than it saw in the text.
    have hstretch : p.Takes found.2 b' := by
      refine htakes.mono fun hword => ?_
      obtain ⟨rest, rfl⟩ := hb'
      rcases eq_or_ne b' [] with rfl | hne
      · cases hword
      · rwa [Pattern.beginsWord_append hne]
    exact absurd (h.hits_eq_nil _ hs p hp)
      (Pattern.hits_ne_nil_of_takes hopens.not_takes_nil hstretch)
  · rwa [← hplace]

/-- Where nothing was removed, no pattern matches. -/
theorem IsRemoval.hits_eq_nil_of_eq (h : IsRemoval ps t left segs) (hleft : left = t) :
    ∀ p ∈ ps, p.hits t = [] := by
  have hsame : remainder segs = spelled segs := by rw [h.remainder_eq, h.spelled_eq, hleft]
  have hplain := eq_plain_of_remainder_eq (fun m hm => (h.opensSpan m hm).ne_nil) hsame
  rw [h.spelled_eq] at hplain
  exact h.hits_eq_nil t (by simp [hplain])

/-- **A search shows what erasing one pattern removes.** -/
theorem isRemoval_segments (hp : p.OpensSpans) (t : Text) :
    IsRemoval [p] t (p.erase t) (p.segments t) where
  spelled_eq := Pattern.spell_segments p t
  remainder_eq := rfl
  opensSpan m hm := hp.hit hm
  hits_eq_nil s hs q hq := by
    rw [List.mem_singleton.1 hq]
    exact Pattern.hits_stretch_eq_nil hp.not_takes_nil (fun m hm => (hp.hit hm).beginsWord) hs

/-- **Patterns without a word end can be erased one after another.** -/
theorem exists_isRemoval_of_hasWordEnd (hopens : ∀ p ∈ ps, p.OpensSpans)
    (hword : ∀ p ∈ ps, p.hasWordEnd = false) (t : Text) :
    ∃ segs, spelled segs = t ∧ remainder segs = ps.foldl (fun t p => p.erase t) t
      ∧ (∀ span, hit span ∈ segs → OpensSpan span)
      ∧ ∀ s, plain s <:+: segs → ∀ p ∈ ps, p.hits s = [] := by
  induction ps generalizing t with
  | nil => exact ⟨plain t, by simp, by simp, by simp [plain], by simp⟩
  | cons p ps ih =>
    rw [List.forall_mem_cons] at hopens hword
    obtain ⟨inner, hspelled, hremainder, hspans, hnone⟩ := ih hopens.2 hword.2 (p.erase t)
    obtain ⟨both, hboth⟩ : ∃ both, Overlay (p.segments t) inner both :=
      exists_overlay hspelled.symm fun m hm => (hspans m hm).ne_nil
    refine ⟨both, ?_, ?_, ?_, ?_⟩
    · exact hboth.spelled_eq.trans (Pattern.spell_segments p t)
    · exact hboth.remainder_eq.trans hremainder
    · intro span hspan
      obtain ⟨m, hm, hhead⟩ := hboth.head?_eq hspan
      rw [OpensSpan, hhead]
      exact hm.elim hopens.1.hit (hspans m)
    · intro s hs
      obtain ⟨houter, hinner⟩ := hboth.plain_isInfix hs
      refine List.forall_mem_cons.2 ⟨?_, hnone s hinner⟩
      exact Pattern.hits_eq_nil_of_isInfix hopens.1.not_takes_nil hword.1 houter

/-! ## Passes -/

namespace CleaningPass

open Pattern

variable (language : Text) (pass : CleaningPass)

theorem opensSpans_dollarEquation : Markup.dollarEquation.OpensSpans :=
  .optional_seq (opensSpans_literal (by decide)) ((opensSpans_literal (by decide)).seq _)

/-- Every pattern of a pass begins with a backslash or a dollar. -/
theorem opensSpans_patterns : ∀ p ∈ pass.patterns language, p.OpensSpans := by
  have hliteral {t : Text} (h : OpensSpan t) (q : Pattern) : (seq (literal t) q).OpensSpans :=
    (opensSpans_literal h).seq q
  cases pass with
  | includeGraphics | label | index | citation | crossReference =>
    exact List.forall_mem_singleton.2 (hliteral (by decide) _)
  | unnumberedEquation =>
    refine List.forall_mem_cons.2 ⟨opensSpans_dollarEquation, List.forall_mem_cons.2 ⟨?_, ?_⟩⟩
    · exact hliteral (by decide) _
    · exact List.forall_mem_singleton.2 (hliteral (by decide) _)
  | equationEnvironment | subfigure =>
    exact List.forall_mem_singleton.2 ((hliteral (by decide) _).seq _)
  | inputListing => exact List.forall_mem_singleton.2 (hliteral (.inl rfl) _)

/-- A pass has one pattern or patterns without a word end. -/
theorem patterns_cases : (∃ p, pass.patterns language = [p])
    ∨ ∀ p ∈ pass.patterns language, p.hasWordEnd = false := by
  cases pass with
  | unnumberedEquation => exact .inr (by simp [patterns]; decide)
  | _ => exact .inl ⟨_, rfl⟩

/-- **What a pass removes.** -/
theorem exists_isRemoval (t : Text) :
    ∃ segs, IsRemoval (pass.patterns language) t (pass.apply language t) segs := by
  have hopens := opensSpans_patterns language pass
  rcases patterns_cases language pass with ⟨p, hp⟩ | hword
  · rw [hp, List.forall_mem_singleton] at hopens
    rw [apply, hp]
    exact ⟨p.segments t, isRemoval_segments hopens t⟩
  · obtain ⟨segs, hspelled, hremainder, hspans, hnone⟩ :=
      exists_isRemoval_of_hasWordEnd hopens hword t
    refine ⟨segs, hspelled, hremainder, hspans, fun s hs => hnone s ?_⟩
    obtain ⟨before, after, rfl, -⟩ := exists_of_mem_stretches hs
    exact ⟨before, after, rfl⟩

/-- **What a pass leaves.** The text is left without some spans, each of which begins with a
backslash or a dollar, and no pattern of the pass matches in a stretch between them. What such a
pattern still matches goes over a place where something was removed, and a text of which nothing was
removed has no match at all. -/
theorem apply_leaves (t : Text) :
    (∃ segs, IsRemoval (pass.patterns language) t (pass.apply language t) segs
      ∧ ∀ p ∈ pass.patterns language, ∀ found ∈ p.placedHits (pass.apply language t),
          SeamIn segs found.1 found.2.length)
      ∧ (pass.apply language t = t → ∀ p ∈ pass.patterns language, p.hits t = []) := by
  obtain ⟨segs, h⟩ := exists_isRemoval language pass t
  refine ⟨⟨segs, h, fun p hp found hfound => ?_⟩, h.hits_eq_nil_of_eq⟩
  exact h.seamIn hp (opensSpans_patterns language pass p hp) hfound

/-- A label that only forms when another one is removed out of its name stays. -/
example : label.apply [] "\\la\\label\x7ba\x7dbel\x7bb\x7d".toList
    = "\\label\x7bb\x7d".toList := by
  decide +kernel

end CleaningPass

end TexCensus
