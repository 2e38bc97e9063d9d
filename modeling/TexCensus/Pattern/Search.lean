import TexCensus.Pattern.Basic

/-!
# Searching

A search goes through a text from left to right. Where the pattern matches, the match becomes one
segment and the search goes on behind it; any other character is kept as a segment of its own. So
matches never overlap, each begins at the first place where one can, and the segments spell the
text (`spell_segments`).

An empty match counts as none.
-/

namespace TexCensus

/-- A piece of a searched text. -/
inductive Segment where
  /-- A character outside every match. -/
  | kept (c : Char)
  /-- A match. -/
  | hit (t : Text)
deriving DecidableEq, Repr

namespace Segment

/-- The characters of a segment. -/
def text : Segment → Text
  | kept c => [c]
  | hit t => t

/-- The characters of a segment if it lies outside every match. -/
def keptText : Segment → Text
  | kept c => [c]
  | hit _ => []

/-- The match, if the segment is one. -/
def match? : Segment → Option Text
  | kept _ => none
  | hit t => some t

end Segment

namespace Pattern

/-- The segments of a text behind those in `acc`, which are in reverse. -/
def segmentsOnto (p : Pattern) (acc : List Segment) : Text → List Segment
  | [] => acc.reverse
  | c :: rest =>
    match p.matchLength? (c :: rest) with
    | some (n + 1) => p.segmentsOnto (.hit (c :: rest.take n) :: acc) (rest.drop n)
    | _ => p.segmentsOnto (.kept c :: acc) rest
termination_by t => t.length
decreasing_by all_goals simp only [List.length_drop, List.length_cons]; omega

/-- The segments of a text. -/
def segments (p : Pattern) (t : Text) : List Segment :=
  p.segmentsOnto [] t

theorem segmentsOnto_eq (p : Pattern) (acc : List Segment) (t : Text) :
    p.segmentsOnto acc t = acc.reverse ++ p.segments t := by
  unfold segments
  induction h : t.length using Nat.strongRecOn generalizing t acc with
  | _ size ih =>
    match t with
    | [] => simp [segmentsOnto]
    | c :: rest =>
      rw [segmentsOnto, segmentsOnto]
      simp only [List.length_cons] at h
      split
      · next n _ =>
        have hlt : (rest.drop n).length < size := by simp; omega
        rw [ih _ hlt _ _ rfl, ih _ hlt [_] _ rfl]
        simp
      · rw [ih rest.length (by omega) _ _ rfl, ih rest.length (by omega) [_] _ rfl]
        simp

@[simp] theorem segments_nil (p : Pattern) : p.segments [] = [] := by
  simp [segments, segmentsOnto]

theorem segments_of_match {p : Pattern} {c : Char} {rest : Text} {n : Nat}
    (h : p.matchLength? (c :: rest) = some (n + 1)) :
    p.segments (c :: rest) = .hit (c :: rest.take n) :: p.segments (rest.drop n) := by
  rw [segments, segmentsOnto, h]
  simp [segmentsOnto_eq]

theorem segments_of_no_match {p : Pattern} {c : Char} {rest : Text}
    (h : ∀ n, p.matchLength? (c :: rest) ≠ some (n + 1)) :
    p.segments (c :: rest) = .kept c :: p.segments rest := by
  rw [segments, segmentsOnto]
  split
  · next n hn => exact absurd hn (h n)
  · simp [segmentsOnto_eq]

/-- **The segments spell the text.** -/
theorem spell_segments (p : Pattern) (t : Text) : (p.segments t).flatMap Segment.text = t := by
  induction h : t.length using Nat.strongRecOn generalizing t with
  | _ size ih =>
    match t with
    | [] => simp
    | c :: rest =>
      simp only [List.length_cons] at h
      by_cases hm : ∃ n, p.matchLength? (c :: rest) = some (n + 1)
      · obtain ⟨n, hn⟩ := hm
        rw [segments_of_match hn, List.flatMap_cons, ih _ (by simp; omega) _ rfl]
        simp [Segment.text]
      · rw [segments_of_no_match (fun n hn => hm ⟨n, hn⟩), List.flatMap_cons,
          ih rest.length (by omega) _ rfl]
        simp [Segment.text]

/-! ## Uses of a search -/

/-- The matches in a text, in order. -/
def hits (p : Pattern) (t : Text) : List Text :=
  (p.segments t).filterMap Segment.match?

/-- The number of matches in a text. -/
def countIn (p : Pattern) (t : Text) : Nat :=
  (p.hits t).length

/-- A text without its matches. -/
def erase (p : Pattern) (t : Text) : Text :=
  (p.segments t).flatMap Segment.keptText

end Pattern

end TexCensus
