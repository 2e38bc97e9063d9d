/-!
# Sets of code points

The character properties of this library are tables of code points in increasing order, either as
closed ranges or as runs with a stride. Because the entries increase, a search stops at the first
one that begins beyond the code point it looks for.
-/

namespace TexCensus.Unicode

/-- Whether a code point lies in one of the closed ranges, which are in increasing order. -/
def inRanges : List (Nat × Nat) → Nat → Bool
  | [], _ => false
  | (first, last) :: rest, n => if n < first then false else n ≤ last || inRanges rest n

/-- Code points at equal distances. -/
structure Run where
  /-- The least member. -/
  first : Nat
  /-- The greatest member. -/
  last : Nat
  /-- The distance between neighbours. -/
  stride : Nat

/-- Whether a code point is a member of the run. -/
def Run.contains (r : Run) (n : Nat) : Bool :=
  r.first ≤ n && n ≤ r.last && (n - r.first) % r.stride == 0

/-- Whether a code point lies in one of the runs, which begin in increasing order. -/
def inRuns : List Run → Nat → Bool
  | [], _ => false
  | r :: rest, n => if n < r.first then false else r.contains n || inRuns rest n

end TexCensus.Unicode
