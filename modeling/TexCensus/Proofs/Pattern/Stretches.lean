import TexCensus.Proofs.Pattern.Language
import TexCensus.Proofs.Pattern.Places

/-!
# What a search leaves

The text that is left where matches are erased consists of the stretches between the matches
(`Segment.stretches`). A search finds nothing in a stretch (`Pattern.hits_stretch_eq_nil`): the
pattern would have matched there before.

Where a second search erases from what a first one left, both together erase spans of the first
text, and every stretch they leave was left by each of them (`Segment.Overlay`).
-/

namespace TexCensus

namespace Segment

/-! ## The text outside the matches -/

/-- The characters outside every match, one after another. -/
def remainder (segs : List Segment) : Text :=
  segs.flatMap keptText

@[simp] theorem remainder_nil : remainder [] = [] := rfl

@[simp] theorem remainder_kept (c : Char) (segs : List Segment) :
    remainder (kept c :: segs) = c :: remainder segs := rfl

@[simp] theorem remainder_hit (m : Text) (segs : List Segment) :
    remainder (hit m :: segs) = remainder segs := rfl

@[simp] theorem remainder_append (xs ys : List Segment) :
    remainder (xs ++ ys) = remainder xs ++ remainder ys := by
  simp [remainder]

@[simp] theorem remainder_plain (t : Text) : remainder (plain t) = t :=
  flatMap_keptText_plain t

theorem eq_plain_of_no_hit {segs : List Segment} (h : ∀ m, hit m ∉ segs) :
    segs = plain (spelled segs) := by
  induction segs with
  | nil => rfl
  | cons s segs ih =>
    cases s with
    | kept c =>
      rw [spelled_kept, plain_cons, ← ih fun m hm => h m (List.mem_cons_of_mem _ hm)]
    | hit m => exact absurd (List.mem_cons_self ..) (h m)

theorem length_remainder_le (segs : List Segment) :
    (remainder segs).length ≤ (spelled segs).length := by
  induction segs with
  | nil => simp
  | cons s segs ih =>
    cases s with
    | kept c => simpa using ih
    | hit m =>
      simp only [remainder_hit, spelled_hit, List.length_append]
      omega

/-- A text of which nothing was erased has no matches. -/
theorem eq_plain_of_remainder_eq {segs : List Segment} (hne : ∀ m, hit m ∈ segs → m ≠ [])
    (h : remainder segs = spelled segs) : segs = plain (spelled segs) := by
  refine eq_plain_of_no_hit fun m hm => ?_
  obtain ⟨before, after, rfl⟩ := List.append_of_mem hm
  have hm : 0 < m.length := List.length_pos_of_ne_nil (hne m hm)
  have hbefore := length_remainder_le before
  have hafter := length_remainder_le after
  have hlength := congrArg List.length h
  simp only [remainder_append, remainder_hit, spelled_append, spelled_hit,
    List.length_append] at hlength
  omega

/-! ## Stretches -/

/-- The stretches of text in front of the first match, between matches and behind the last one. -/
def stretches : List Segment → List Text
  | [] => [[]]
  | kept c :: segs => consFirst c (stretches segs)
  | hit _ :: segs => [] :: stretches segs

/-- The first stretch goes up to the first match, and the others follow behind it. -/
theorem exists_first_stretch (segs : List Segment) :
    ∃ first others after, stretches segs = first :: others ∧ segs = plain first ++ after
      ∧ ((after = [] ∧ others = [])
        ∨ ∃ m behind, after = hit m :: behind ∧ others = stretches behind) := by
  induction segs with
  | nil => exact ⟨[], [], [], rfl, rfl, .inl ⟨rfl, rfl⟩⟩
  | cons s segs ih =>
    cases s with
    | kept c =>
      obtain ⟨first, others, after, hfirst, hsegs, hothers⟩ := ih
      exact ⟨c :: first, others, after, by rw [stretches, hfirst]; rfl,
        congrArg (kept c :: ·) hsegs, hothers⟩
    | hit m => exact ⟨[], stretches segs, hit m :: segs, rfl, rfl, .inr ⟨m, segs, rfl, rfl⟩⟩

/-- The stretches are what is left. -/
theorem flatten_stretches (segs : List Segment) : (stretches segs).flatten = remainder segs := by
  induction segs with
  | nil => rfl
  | cons s segs ih =>
    cases s with
    | kept c =>
      obtain ⟨first, others, -, hfirst, -, -⟩ := exists_first_stretch segs
      rw [stretches, remainder_kept, ← ih, hfirst]
      rfl
    | hit m => rw [stretches, remainder_hit, ← ih, List.flatten_cons, List.nil_append]

@[simp] theorem stretches_plain (t : Text) : stretches (plain t) = [t] := by
  induction t with
  | nil => rfl
  | cons c t ih => rw [plain_cons, stretches, ih, consFirst]

/-- A stretch ends in front of a match or with the text. -/
theorem exists_of_mem_stretches {s : Text} {segs : List Segment} (h : s ∈ stretches segs) :
    ∃ before after, segs = before ++ plain s ++ after ∧ ∀ c behind, after ≠ kept c :: behind := by
  induction hn : segs.length using Nat.strongRecOn generalizing segs with
  | _ size ih =>
    obtain ⟨first, others, after, hfirst, rfl, hothers⟩ := exists_first_stretch segs
    rw [hfirst, List.mem_cons] at h
    rcases h with rfl | h
    · refine ⟨[], after, by simp, ?_⟩
      rcases hothers with ⟨rfl, -⟩ | ⟨m, behind, rfl, -⟩ <;> simp
    · rcases hothers with ⟨-, rfl⟩ | ⟨m, behind, rfl, rfl⟩
      · cases h
      · obtain ⟨before, after, hbehind, hafter⟩ :=
          ih behind.length (by simp at hn; omega) h rfl
        refine ⟨plain first ++ hit m :: before, after, ?_, hafter⟩
        rw [hbehind]
        simp

/-! ## Parts of what is left -/

/-- A match that lies strictly inside a part of what is left: the part begins `n` characters into it
and has `length` characters. -/
def SeamIn (segs : List Segment) (n length : Nat) : Prop :=
  ∃ before m after, segs = before ++ hit m :: after
    ∧ n < (remainder before).length ∧ (remainder before).length < n + length

theorem SeamIn.hit {segs : List Segment} {n length : Nat} (m : Text) (h : SeamIn segs n length) :
    SeamIn (hit m :: segs) n length := by
  obtain ⟨before, m', after, rfl, hlt, hgt⟩ := h
  exact ⟨.hit m :: before, m', after, rfl, hlt, hgt⟩

theorem SeamIn.kept {segs : List Segment} {n length : Nat} (c : Char) (h : SeamIn segs n length) :
    SeamIn (kept c :: segs) (n + 1) length := by
  obtain ⟨before, m', after, rfl, hlt, hgt⟩ := h
  refine ⟨.kept c :: before, m', after, rfl, ?_, ?_⟩ <;>
    simp only [remainder_kept, List.length_cons] <;> omega

/-- What is left begins with the first stretch; a beginning that is longer goes over a match. -/
theorem first_stretch_or_seam {segs : List Segment} {m b : Text} (h : remainder segs = m ++ b) :
    (∃ first others b', stretches segs = first :: others ∧ first = m ++ b' ∧ b' <+: b)
      ∨ ∃ before span after, segs = before ++ hit span :: after
        ∧ (remainder before).length < m.length := by
  induction segs generalizing m with
  | nil =>
    obtain ⟨rfl, rfl⟩ := List.append_eq_nil_iff.1 h.symm
    exact .inl ⟨[], [], [], rfl, rfl, List.prefix_refl []⟩
  | cons s segs ih =>
    cases m with
    | nil =>
      obtain ⟨first, others, -, hfirst, -, -⟩ := exists_first_stretch (s :: segs)
      refine .inl ⟨first, others, first, hfirst, rfl, ?_⟩
      rw [List.nil_append] at h
      rw [← h, ← flatten_stretches, hfirst, List.flatten_cons]
      exact List.prefix_append _ _
    | cons c m =>
      cases s with
      | kept d =>
        rw [remainder_kept, List.cons_append, List.cons.injEq] at h
        obtain ⟨rfl, h⟩ := h
        rcases ih h with ⟨first, others, b', hfirst, rfl, hb'⟩ | ⟨before, span, after, rfl, hlt⟩
        · exact .inl ⟨d :: (m ++ b'), others, b', by rw [stretches, hfirst]; rfl, rfl, hb'⟩
        · refine .inr ⟨.kept d :: before, span, after, rfl, ?_⟩
          simpa using hlt
      | hit span => exact .inr ⟨[], span, segs, rfl, by simp⟩

/-- **A part of what is left lies in a stretch or goes over a match.** -/
theorem mem_stretches_or_seamIn {segs : List Segment} {a m b : Text} (hne : m ≠ [])
    (h : remainder segs = a ++ m ++ b) :
    (∃ s ∈ stretches segs, ∃ a' b', s = a' ++ m ++ b' ∧ b' <+: b)
      ∨ SeamIn segs a.length m.length := by
  induction segs generalizing a with
  | nil =>
    have : m = [] := by simp_all
    exact absurd this hne
  | cons s segs ih =>
    cases s with
    | hit span =>
      rcases ih h with ⟨s, hs, hpart⟩ | hseam
      · exact .inl ⟨s, List.mem_cons_of_mem _ hs, hpart⟩
      · exact .inr (hseam.hit span)
    | kept c =>
      rw [remainder_kept] at h
      obtain ⟨first, others, -, hfirst, -, -⟩ := exists_first_stretch segs
      cases a with
      | nil =>
        obtain ⟨d, m, rfl⟩ := List.exists_cons_of_ne_nil hne
        rw [List.nil_append, List.cons_append, List.cons.injEq] at h
        obtain ⟨rfl, h⟩ := h
        rcases first_stretch_or_seam h with
          ⟨first, others, b', hfirst, rfl, hb'⟩ | ⟨before, span, after, rfl, hlt⟩
        · exact .inl ⟨c :: (m ++ b'), by simp [stretches, hfirst, consFirst], [], b', rfl, hb'⟩
        · refine .inr ⟨.kept c :: before, span, after, rfl, ?_⟩
          simpa using hlt
      | cons d a =>
        rw [List.cons_append, List.cons_append, List.cons.injEq] at h
        obtain ⟨rfl, h⟩ := h
        rcases ih h with ⟨s, hs, a', b', rfl, hb'⟩ | hseam
        · rw [hfirst, List.mem_cons] at hs
          rw [stretches, hfirst, consFirst]
          rcases hs with hs | hs
          · refine .inl ⟨c :: first, List.mem_cons_self .., c :: a', b', ?_, hb'⟩
            rw [← hs]
            rfl
          · exact .inl ⟨_, List.mem_cons_of_mem _ hs, a', b', rfl, hb'⟩
        · exact .inr (hseam.kept c)

/-! ## One removal after another -/

/-- Segments of a text, segments of what they leave, and the segments of the text that leave what
both together leave. -/
inductive Overlay : List Segment → List Segment → List Segment → Prop where
  /-- Nothing is left to do. -/
  | nil : Overlay [] [] []
  /-- What the first search matched is no part of the text that the second one goes through. -/
  | outer {outer inner both : List Segment} (m : Text) (h : Overlay outer inner both) :
    Overlay (hit m :: outer) inner (hit m :: both)
  /-- Both leave a character. -/
  | kept {outer inner both : List Segment} (c : Char) (h : Overlay outer inner both) :
    Overlay (kept c :: outer) (kept c :: inner) (kept c :: both)
  /-- A match of the second search reaches over matches of the first one. -/
  | inner {outer inner both : List Segment} (c : Char) (covered : List Segment)
    (h : Overlay outer inner both) :
    Overlay (kept c :: (covered ++ outer)) (hit (c :: remainder covered) :: inner)
      (hit (c :: spelled covered) :: both)

variable {outer inner both : List Segment}

theorem Overlay.spelled_eq (h : Overlay outer inner both) : spelled both = spelled outer := by
  induction h with
  | nil => rfl
  | outer m _ ih => rw [spelled_hit, spelled_hit, ih]
  | kept c _ ih => rw [spelled_kept, spelled_kept, ih]
  | inner c covered _ ih => rw [spelled_hit, spelled_kept, spelled_append, ih, List.cons_append]

theorem Overlay.remainder_eq (h : Overlay outer inner both) : remainder both = remainder inner := by
  induction h with
  | nil => rfl
  | outer m _ ih => exact ih
  | kept c _ ih => rw [remainder_kept, remainder_kept, ih]
  | inner c covered _ ih => exact ih

/-- A span of both begins like a match of one of them. -/
theorem Overlay.head?_eq (h : Overlay outer inner both) {span : Text} (hspan : hit span ∈ both) :
    ∃ m, (hit m ∈ outer ∨ hit m ∈ inner) ∧ span.head? = m.head? := by
  induction h with
  | nil => cases hspan
  | outer m _ ih =>
    rcases List.mem_cons.1 hspan with hspan | hspan
    · obtain rfl := Segment.hit.inj hspan
      exact ⟨span, .inl (List.mem_cons_self ..), rfl⟩
    · obtain ⟨m', hm', hhead⟩ := ih hspan
      exact ⟨m', hm'.imp_left (List.mem_cons_of_mem _), hhead⟩
  | kept c _ ih =>
    rcases List.mem_cons.1 hspan with hspan | hspan
    · cases hspan
    · obtain ⟨m', hm', hhead⟩ := ih hspan
      exact ⟨m', hm'.imp (List.mem_cons_of_mem _) (List.mem_cons_of_mem _), hhead⟩
  | inner c covered _ ih =>
    rcases List.mem_cons.1 hspan with hspan | hspan
    · obtain rfl := Segment.hit.inj hspan
      exact ⟨c :: remainder covered, .inr (List.mem_cons_self ..), rfl⟩
    · obtain ⟨m', hm', hhead⟩ := ih hspan
      refine ⟨m', hm'.imp (fun hm' => ?_) (List.mem_cons_of_mem _), hhead⟩
      exact List.mem_cons_of_mem _ (List.mem_append_right _ hm')

/-- No part without matches begins with a match. -/
theorem eq_nil_of_plain_isPrefix {s m : Text} {segs : List Segment}
    (h : plain s <+: hit m :: segs) : s = [] := by
  cases s with
  | nil => rfl
  | cons c s => cases (List.cons_prefix_cons.1 h).1

theorem Overlay.plain_isPrefix (h : Overlay outer inner both) {s : Text} (hs : plain s <+: both) :
    plain s <+: outer ∧ plain s <+: inner := by
  induction h generalizing s with
  | nil => exact ⟨hs, hs⟩
  | kept c _ ih =>
    cases s with
    | nil => exact ⟨List.nil_prefix, List.nil_prefix⟩
    | cons d s =>
      rw [plain_cons, List.cons_prefix_cons] at hs ⊢
      obtain ⟨houter, hinner⟩ := ih hs.2
      exact ⟨⟨hs.1, houter⟩, List.cons_prefix_cons.2 ⟨hs.1, hinner⟩⟩
  | outer | inner =>
    rw [eq_nil_of_plain_isPrefix hs]
    exact ⟨List.nil_prefix, List.nil_prefix⟩

/-- **What both leave in one piece was left in one piece by each of them.** -/
theorem Overlay.plain_isInfix (h : Overlay outer inner both) {s : Text} (hs : plain s <:+: both) :
    plain s <:+: outer ∧ plain s <:+: inner := by
  induction h with
  | nil => exact ⟨hs, hs⟩
  | outer m h ih =>
    rcases List.infix_cons_iff.1 hs with hs | hs
    · rw [eq_nil_of_plain_isPrefix hs]
      exact ⟨List.nil_infix, List.nil_infix⟩
    · exact ⟨List.infix_cons (ih hs).1, (ih hs).2⟩
  | kept c h ih =>
    rcases List.infix_cons_iff.1 hs with hs | hs
    · obtain ⟨houter, hinner⟩ := (h.kept c).plain_isPrefix hs
      exact ⟨houter.isInfix, hinner.isInfix⟩
    · exact ⟨List.infix_cons (ih hs).1, List.infix_cons (ih hs).2⟩
  | inner c covered h ih =>
    rcases List.infix_cons_iff.1 hs with hs | hs
    · rw [eq_nil_of_plain_isPrefix hs]
      exact ⟨List.nil_infix, List.nil_infix⟩
    · exact ⟨List.infix_cons ((ih hs).1.trans (List.suffix_append _ _).isInfix),
        List.infix_cons (ih hs).2⟩

/-- What is left can be cut wherever the text can. -/
theorem exists_append_of_remainder {segs : List Segment} {a b : Text}
    (h : remainder segs = a ++ b) :
    ∃ xs ys, segs = xs ++ ys ∧ remainder xs = a ∧ remainder ys = b := by
  induction segs generalizing a with
  | nil =>
    obtain ⟨rfl, rfl⟩ := List.append_eq_nil_iff.1 h.symm
    exact ⟨[], [], rfl, rfl, rfl⟩
  | cons s segs ih =>
    cases s with
    | hit m =>
      obtain ⟨xs, ys, rfl, hxs, hys⟩ := ih h
      exact ⟨hit m :: xs, ys, rfl, hxs, hys⟩
    | kept c =>
      cases a with
      | nil => exact ⟨[], kept c :: segs, rfl, rfl, h⟩
      | cons d a =>
        rw [remainder_kept, List.cons_append, List.cons.injEq] at h
        obtain ⟨rfl, h⟩ := h
        obtain ⟨xs, ys, rfl, rfl, hys⟩ := ih h
        exact ⟨.kept c :: xs, ys, rfl, rfl, hys⟩

/-- **Two removals one after the other are one removal.** -/
theorem exists_overlay (h : remainder outer = spelled inner) (hne : ∀ m, hit m ∈ inner → m ≠ []) :
    ∃ both, Overlay outer inner both := by
  induction hn : outer.length using Nat.strongRecOn generalizing outer inner with
  | _ size ih =>
    match outer, inner with
    | [], [] => exact ⟨[], .nil⟩
    | [], .kept c :: inner => simp at h
    | [], .hit m :: inner =>
      have hm : m = [] := (List.append_eq_nil_iff.1 h.symm).1
      exact absurd hm (hne m (List.mem_cons_self ..))
    | .hit m :: outer, inner =>
      have houter : remainder outer = spelled inner := h
      obtain ⟨both, hboth⟩ := ih outer.length (by simp [← hn]) houter hne rfl
      exact ⟨.hit m :: both, hboth.outer m⟩
    | .kept c :: outer, [] => simp at h
    | .kept c :: outer, .kept d :: inner =>
      rw [remainder_kept, spelled_kept, List.cons.injEq] at h
      obtain ⟨rfl, h⟩ := h
      obtain ⟨both, hboth⟩ := ih outer.length (by simp [← hn]) h
        (fun m hm => hne m (List.mem_cons_of_mem _ hm)) rfl
      exact ⟨.kept c :: both, hboth.kept c⟩
    | .kept c :: outer, .hit m :: inner =>
      obtain ⟨d, m, rfl⟩ := List.exists_cons_of_ne_nil (hne m (List.mem_cons_self ..))
      rw [remainder_kept, spelled_hit, List.cons_append, List.cons.injEq] at h
      obtain ⟨rfl, h⟩ := h
      obtain ⟨covered, outer, rfl, rfl, hrest⟩ := exists_append_of_remainder h
      rw [List.length_cons, List.length_append] at hn
      obtain ⟨both, hboth⟩ := ih outer.length (by omega) hrest
        (fun m hm => hne m (List.mem_cons_of_mem _ hm)) rfl
      exact ⟨_, hboth.inner c covered⟩

end Segment

namespace Pattern

open Segment

variable {p : Pattern} {t : Text}

/-! ## A search from the middle of its segments -/

/-- Behind its first segment a search starts anew. -/
theorem segments_of_cons {s : Segment} {segs : List Segment} (h : p.segments t = s :: segs) :
    p.segments (spelled segs) = segs ∧
      match s with
      | kept c => ∀ n, p.matchLength? (c :: spelled segs) ≠ some (n + 1)
      | hit m => m ≠ [] ∧ p.matchLength? (m ++ spelled segs) = some m.length := by
  have hspelled : t = s.text ++ spelled segs := by
    rw [← spelled_cons, ← h]
    exact (spell_segments p t).symm
  cases t with
  | nil => simp at h
  | cons c rest =>
    by_cases hm : ∃ n, p.matchLength? (c :: rest) = some (n + 1)
    · obtain ⟨n, hn⟩ := hm
      rw [segments_of_match hn, List.cons.injEq] at h
      obtain ⟨rfl, rfl⟩ := h
      have hrest : spelled (p.segments (rest.drop n)) = rest.drop n := spell_segments p _
      refine ⟨by rw [hrest], by simp, ?_⟩
      have htext : c :: rest = c :: rest.take n ++ spelled (p.segments (rest.drop n)) := hspelled
      have hle : n ≤ rest.length := Nat.le_of_succ_le_succ (matchLength?_le hn)
      rw [← htext, hn, List.length_cons, List.length_take, Nat.min_eq_left hle]
    · have hno : ∀ n, p.matchLength? (c :: rest) ≠ some (n + 1) := fun n hn => hm ⟨n, hn⟩
      rw [segments_of_no_match hno, List.cons.injEq] at h
      obtain ⟨rfl, rfl⟩ := h
      have hrest : spelled (p.segments rest) = rest := spell_segments p _
      simpa only [hrest, true_and] using hno

/-- **A search starts anew behind each of its segments.** -/
theorem segments_of_append {before after : List Segment} (h : p.segments t = before ++ after) :
    p.segments (spelled after) = after := by
  induction before generalizing t with
  | nil =>
    have hspelled : spelled after = t := by
      rw [List.nil_append] at h
      rw [← h]
      exact spell_segments p t
    rw [hspelled, h, List.nil_append]
  | cons s before ih => exact ih (segments_of_cons h).1

/-- A character is kept where no match begins. -/
theorem matchLength?_of_kept {before after : List Segment} {c : Char}
    (h : p.segments t = before ++ kept c :: after) (n : Nat) :
    p.matchLength? (c :: spelled after) ≠ some (n + 1) :=
  (segments_of_cons (segments_of_append h)).2 n

/-- A match is what the pattern prefers at its place. -/
theorem matchLength?_of_hit {before after : List Segment} {m : Text}
    (h : p.segments t = before ++ hit m :: after) :
    m ≠ [] ∧ p.matchLength? (m ++ spelled after) = some m.length :=
  (segments_of_cons (segments_of_append h)).2

/-! ## Matches -/

/-- A match is a part of the text that the pattern prefers in front of what follows. -/
theorem exists_of_mem_placedHits {h : Nat × Text} (hh : h ∈ p.placedHits t) :
    ∃ a b, t = a ++ h.2 ++ b ∧ a.length = h.1 ∧ h.2 ≠ []
      ∧ p.matchLength? (h.2 ++ b) = some h.2.length := by
  obtain ⟨before, after, hsegs, hplace⟩ := exists_of_mem_placed hh
  obtain ⟨hne, hmatch⟩ := matchLength?_of_hit hsegs
  refine ⟨spelled before, spelled after, ?_, by omega, hne, hmatch⟩
  have hspelled : spelled (p.segments t) = t := spell_segments p t
  rw [← hspelled, hsegs]
  simp

/-- A search without matches keeps every character. -/
theorem segments_eq_plain_of_hits (h : p.hits t = []) : p.segments t = plain t := by
  have hnone : ∀ m, hit m ∉ p.segments t := fun m hm => by
    have : m ∈ p.hits t := List.mem_filterMap.2 ⟨hit m, hm, rfl⟩
    rw [h] at this
    cases this
  have hspelled : spelled (p.segments t) = t := spell_segments p t
  have hplain := eq_plain_of_no_hit hnone
  rwa [hspelled] at hplain

theorem exists_takes_of_hits_ne_nil (h : p.hits t ≠ []) :
    ∃ a m b, t = a ++ m ++ b ∧ m ≠ [] ∧ p.Takes m b := by
  rw [← map_snd_placedHits, ne_eq, List.map_eq_nil_iff] at h
  obtain ⟨placed, hplaced⟩ := List.exists_mem_of_ne_nil _ h
  obtain ⟨a, b, htext, -, hne, hmatch⟩ := exists_of_mem_placedHits hplaced
  exact ⟨a, placed.2, b, htext, hne, takes_of_matchLength?_append hmatch⟩

/-- Where a pattern takes a text it matches with one character at least, if it never takes nothing. -/
theorem exists_matchLength?_of_takes (hnil : ∀ rest, ¬p.Takes [] rest) {m b : Text}
    (h : p.Takes m b) : ∃ n, p.matchLength? (m ++ b) = some (n + 1) := by
  obtain ⟨n, hn⟩ := Option.isSome_iff_exists.1 (isSome_matchLength?_iff.2 ⟨m, b, rfl, h⟩)
  cases n with
  | zero =>
    obtain ⟨taken, rest, -, hlength, htaken⟩ := takes_of_matchLength? hn
    obtain rfl := List.length_eq_zero_iff.1 hlength
    exact absurd htaken (hnil rest)
  | succ n => exact ⟨n, hn⟩

/-- A search finds something in a text with a part that the pattern can take. -/
theorem hits_ne_nil_of_takes (hnil : ∀ rest, ¬p.Takes [] rest) {a m b : Text}
    (h : p.Takes m b) : p.hits (a ++ m ++ b) ≠ [] := by
  intro hhits
  obtain ⟨c, m, rfl⟩ : ∃ c m', m = c :: m' :=
    List.exists_cons_of_ne_nil fun hm => hnil b (hm ▸ h)
  have hsegs : p.segments (a ++ c :: m ++ b) = plain a ++ kept c :: plain (m ++ b) := by
    rw [segments_eq_plain_of_hits hhits]
    simp [plain_append, plain_cons]
  obtain ⟨n, hn⟩ := exists_matchLength?_of_takes hnil h
  refine matchLength?_of_kept hsegs n ?_
  rwa [spelled_plain]

/-- A search finds nothing in a part that it kept, as far as the text behind the part allows what
the end of the text would. -/
theorem hits_eq_nil_of_kept (hnil : ∀ rest, ¬p.Takes [] rest) {before after : List Segment}
    {s : Text} (h : p.segments t = before ++ plain s ++ after)
    (hrest : ∀ m b, p.Takes m b → p.Takes m (b ++ spelled after)) : p.hits s = [] := by
  by_contra hhits
  obtain ⟨a, m, b, rfl, hne, htakes⟩ := exists_takes_of_hits_ne_nil hhits
  obtain ⟨c, m, rfl⟩ := List.exists_cons_of_ne_nil hne
  have hsegs : p.segments t = before ++ plain a ++ kept c :: (plain (m ++ b) ++ after) := by
    rw [h]
    simp [plain_append, plain_cons]
  obtain ⟨n, hn⟩ := exists_matchLength?_of_takes hnil (hrest _ _ htakes)
  refine matchLength?_of_kept hsegs n ?_
  rw [← hn, spelled_append, spelled_plain, List.cons_append, List.append_assoc]

/-- A pattern that sees nothing behind a match does not match inside what its search kept. -/
theorem hits_eq_nil_of_isInfix (hnil : ∀ rest, ¬p.Takes [] rest) (hp : p.hasWordEnd = false)
    {s : Text} (h : plain s <:+: p.segments t) : p.hits s = [] := by
  obtain ⟨before, after, h⟩ := h
  exact hits_eq_nil_of_kept hnil h.symm fun m b hm => hm.of_hasWordEnd hp _

/-- **A search finds nothing in the stretches that it leaves**, if no match begins like a word: then
a word that ends with its stretch ends in the text as well. -/
theorem hits_stretch_eq_nil (hnil : ∀ rest, ¬p.Takes [] rest)
    (hword : ∀ m, hit m ∈ p.segments t → beginsWord m = false) {s : Text}
    (hs : s ∈ stretches (p.segments t)) : p.hits s = [] := by
  obtain ⟨before, after, h, hafter⟩ := exists_of_mem_stretches hs
  have hspelled : beginsWord (spelled after) = false := by
    cases after with
    | nil => rfl
    | cons x after =>
      cases x with
      | kept c => exact absurd rfl (hafter c after)
      | hit m =>
        have hm : hit m ∈ p.segments t := by
          rw [h]
          simp
        rw [spelled_hit, beginsWord_append (hit_ne_nil hm), hword m hm]
  refine hits_eq_nil_of_kept hnil h fun m b hm => hm.mono fun hbegins => ?_
  rcases eq_or_ne b [] with rfl | hne
  · rw [List.nil_append, hspelled] at hbegins
    cases hbegins
  · rwa [beginsWord_append hne] at hbegins

end Pattern

end TexCensus
