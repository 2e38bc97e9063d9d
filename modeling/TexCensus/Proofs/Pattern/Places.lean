import TexCensus.Pattern.Search
import Mathlib.Data.List.Basic

/-!
# The places of matches

The matches of a search with the places where they begin. Places follow the segments: they count
the characters of everything in front (`placed_append`), so a match lies between the beginning of
its segments and their end (`le_of_mem_placed`, `lt_of_mem_placed`), and segments further right in
a text have the same matches further right (`placed_add`).
-/

namespace TexCensus

namespace Segment

/-- The characters outside every match, as segments. -/
def plain (t : Text) : List Segment :=
  t.map kept

/-- The characters of segments one after another. -/
def spelled (segs : List Segment) : Text :=
  segs.flatMap text

/-- The matches among segments with their places, if `n` characters stand in front. -/
def placed : Nat → List Segment → List (Nat × Text)
  | _, [] => []
  | n, kept _ :: segs => placed (n + 1) segs
  | n, hit t :: segs => (n, t) :: placed (n + t.length) segs

@[simp] theorem spelled_nil : spelled [] = [] := rfl

@[simp] theorem spelled_cons (s : Segment) (segs : List Segment) :
    spelled (s :: segs) = s.text ++ spelled segs := by
  simp [spelled]

@[simp] theorem text_kept (c : Char) : (kept c).text = [c] := rfl

@[simp] theorem text_hit (m : Text) : (hit m).text = m := rfl

theorem spelled_kept (c : Char) (segs : List Segment) :
    spelled (kept c :: segs) = c :: spelled segs := rfl

theorem spelled_hit (m : Text) (segs : List Segment) :
    spelled (hit m :: segs) = m ++ spelled segs := rfl

@[simp] theorem spelled_append (xs ys : List Segment) :
    spelled (xs ++ ys) = spelled xs ++ spelled ys := by
  simp [spelled]

theorem plain_cons (c : Char) (t : Text) : plain (c :: t) = kept c :: plain t := rfl

theorem plain_append (s t : Text) : plain (s ++ t) = plain s ++ plain t := by
  simp [plain]

@[simp] theorem spelled_plain (t : Text) : spelled (plain t) = t := by
  simp [spelled, plain, List.flatMap_map, text]

@[simp] theorem filterMap_match?_plain (t : Text) : (plain t).filterMap match? = [] := by
  simp [plain, match?]

@[simp] theorem flatMap_keptText_plain (t : Text) : (plain t).flatMap keptText = t := by
  simp [plain, List.flatMap_map, keptText]

/-- Places count the characters of the segments in front. -/
theorem placed_append (n : Nat) (xs ys : List Segment) :
    placed n (xs ++ ys) = placed n xs ++ placed (n + (spelled xs).length) ys := by
  induction xs generalizing n with
  | nil => simp [placed]
  | cons s xs ih =>
    cases s with
    | kept c => simp [placed, ih, text, Nat.add_assoc, Nat.add_comm 1]
    | hit t => simp [placed, ih, text, Nat.add_assoc]

@[simp] theorem placed_plain (n : Nat) (t : Text) : placed n (plain t) = [] := by
  induction t generalizing n with
  | nil => rfl
  | cons c t ih => exact ih (n + 1)

/-- Segments further right have the same matches further right. -/
theorem placed_add (n m : Nat) (segs : List Segment) :
    placed (n + m) segs = (placed n segs).map fun h => (h.1 + m, h.2) := by
  induction segs generalizing n with
  | nil => rfl
  | cons s segs ih =>
    cases s with
    | kept c => rw [placed, placed, Nat.add_right_comm, ih]
    | hit t => rw [placed, placed, Nat.add_right_comm, ih, List.map_cons]

theorem le_of_mem_placed {n : Nat} {segs : List Segment} {h : Nat × Text}
    (hh : h ∈ placed n segs) : n ≤ h.1 := by
  induction segs generalizing n with
  | nil => simp [placed] at hh
  | cons s segs ih =>
    cases s with
    | kept c => exact Nat.le_of_succ_le (ih hh)
    | hit t =>
      rw [placed, List.mem_cons] at hh
      rcases hh with rfl | hh
      · exact Nat.le_refl _
      · exact Nat.le_trans (Nat.le_add_right n t.length) (ih hh)

theorem lt_of_mem_placed {n : Nat} {segs : List Segment} {h : Nat × Text}
    (hh : h ∈ placed n segs) (hne : h.2 ≠ []) : h.1 < n + (spelled segs).length := by
  induction segs generalizing n with
  | nil => simp [placed] at hh
  | cons s segs ih =>
    cases s with
    | kept c =>
      have := ih hh
      simp only [spelled_cons, text, List.length_append, List.length_singleton]
      omega
    | hit t =>
      rw [placed, List.mem_cons] at hh
      rw [spelled_cons, List.length_append]
      rcases hh with rfl | hh
      · have : 0 < t.length := List.length_pos_of_ne_nil hne
        simp only [text]
        omega
      · have := ih hh
        simp only [text]
        omega

/-- Matches stand in order, and none begins in front of the end of another one. -/
theorem pairwise_placed (n : Nat) (segs : List Segment) :
    (placed n segs).Pairwise fun a b => a.1 + a.2.length ≤ b.1 := by
  induction segs generalizing n with
  | nil => exact List.Pairwise.nil
  | cons s segs ih =>
    cases s with
    | kept c => exact ih (n + 1)
    | hit t => exact List.Pairwise.cons (fun h hh => le_of_mem_placed hh) (ih (n + t.length))

theorem map_snd_placed (n : Nat) (segs : List Segment) :
    (placed n segs).map Prod.snd = segs.filterMap match? := by
  induction segs generalizing n with
  | nil => rfl
  | cons s segs ih =>
    cases s with
    | kept c =>
      rw [placed, ih, List.filterMap_cons_none]
      rfl
    | hit t =>
      rw [placed, List.map_cons, ih, List.filterMap_cons_some (b := t)]
      rfl

/-- A match with its place has everything in front of it before the place. -/
theorem exists_of_mem_placed {n : Nat} {segs : List Segment} {h : Nat × Text}
    (hh : h ∈ placed n segs) :
    ∃ before after, segs = before ++ hit h.2 :: after ∧ h.1 = n + (spelled before).length := by
  induction segs generalizing n with
  | nil => simp [placed] at hh
  | cons s segs ih =>
    cases s with
    | kept c =>
      obtain ⟨before, after, rfl, hplace⟩ := ih hh
      refine ⟨.kept c :: before, after, rfl, ?_⟩
      rw [hplace, spelled_kept, List.length_cons]
      omega
    | hit m =>
      rw [placed, List.mem_cons] at hh
      rcases hh with rfl | hh
      · exact ⟨[], segs, rfl, by simp⟩
      · obtain ⟨before, after, rfl, hplace⟩ := ih hh
        refine ⟨hit m :: before, after, rfl, ?_⟩
        rw [hplace, spelled_hit, List.length_append]
        omega

theorem hit_mem_of_mem_placed {n : Nat} {segs : List Segment} {h : Nat × Text}
    (hh : h ∈ placed n segs) : hit h.2 ∈ segs := by
  have hm : h.2 ∈ segs.filterMap match? := by
    rw [← map_snd_placed n]
    exact List.mem_map_of_mem hh
  obtain ⟨s, hs, hm⟩ := List.mem_filterMap.mp hm
  cases s with
  | kept c => simp [match?] at hm
  | hit t =>
    simp only [match?, Option.some.injEq] at hm
    exact hm ▸ hs

end Segment

namespace Pattern

/-- The matches in a text with the places where they begin. -/
def placedHits (p : Pattern) (t : Text) : List (Nat × Text) :=
  Segment.placed 0 (p.segments t)

/-- The matches with their places are the matches. -/
theorem map_snd_placedHits (p : Pattern) (t : Text) :
    (p.placedHits t).map Prod.snd = p.hits t :=
  Segment.map_snd_placed 0 _

/-- No search gives an empty match. -/
theorem hit_ne_nil {p : Pattern} {t m : Text} (h : .hit m ∈ p.segments t) : m ≠ [] := by
  induction hn : t.length using Nat.strongRecOn generalizing t with
  | _ size ih =>
    match t with
    | [] => simp at h
    | c :: rest =>
      simp only [List.length_cons] at hn
      by_cases hm : ∃ n, p.matchLength? (c :: rest) = some (n + 1)
      · obtain ⟨n, hm⟩ := hm
        rw [segments_of_match hm, List.mem_cons] at h
        rcases h with h | h
        · simp only [Segment.hit.injEq] at h
          simp [h]
        · exact ih _ (by simp; omega) h rfl
      · rw [segments_of_no_match (fun n hn => hm ⟨n, hn⟩), List.mem_cons] at h
        rcases h with h | h
        · exact absurd h (by simp)
        · exact ih _ (by omega) h rfl

end Pattern

end TexCensus
