import TexCensus.Markup.Patterns
import TexCensus.Proofs.Pattern.Matching
import TexCensus.Proofs.Pattern.Places

/-!
# Equations between dollars

What a search for dollar equations finds in a text of groups and prose. A body between two dollars
is one match where no dollar follows (`standsAlone_dollarPair`), and so is one with a further
dollar in front (`standsAlone_cons_dollarPair`) or at either end (`standsAlone_display`); a dollar
that follows belongs to the match (`segments_dollarPair_dollar`). Groups with prose between them are
matched one by one (`segments_written`).
-/

namespace TexCensus.Markup

open Pattern Segment

/-! ## One match -/

theorem head?_of_free {t : Text} (hfree : '$' ∉ t) : t.head? ≠ some '$' :=
  fun h => hfree (List.mem_of_mem_head? h)

theorem head?_append_of_free {b : Text} (hne : b ≠ []) (hfree : '$' ∉ b) (rest : Text) :
    (b ++ rest).head? ≠ some '$' := by
  rw [List.head?_append_of_ne_nil b hne]
  exact head?_of_free hfree

/-- What the pattern does from the closing dollar on. -/
def dollarEnd : Continuation :=
  (all [literal ['$'], optional (literal ['$'])]).run fun n _ => some n

/-- What the pattern does behind its opening dollars. -/
def dollarBody : Continuation :=
  (lazyPlus .any).run dollarEnd

theorem dollarEnd_of_head {n : Nat} {t : Text} (h : t.head? ≠ some '$') : dollarEnd n t = none :=
  run_literal_of_head h

/-- One dollar ends an equation, and a second one belongs to it. -/
theorem dollarEnd_dollar (n : Nat) (rest : Text) :
    dollarEnd n ('$' :: rest) = some (n + if rest.head? = some '$' then 2 else 1) := by
  show (literal ['$']).run ((optional (literal ['$'])).run fun n _ => some n) n ('$' :: rest) = _
  rw [run_literal_cons]
  split
  · next h =>
    obtain ⟨rest, rfl⟩ : ∃ tail, rest = '$' :: tail := by
      cases rest with
      | nil => simp at h
      | cons c tail => exact ⟨tail, by simpa using h⟩
    exact run_optional_of_some (run_literal_cons '$' rest)
  · next h => exact run_optional_of_none (run_literal_of_head h)

/-- No equation ends where there is no dollar. -/
theorem dollarEnd_append {b : Text} (hfree : '$' ∉ b) (hne : b ≠ []) (m : Nat) (rest : Text) :
    dollarEnd m (b ++ rest) = none := by
  exact dollarEnd_of_head (head?_append_of_free hne hfree rest)

/-- A body ends at its first dollar. -/
theorem dollarBody_closed {b : Text} (hne : b ≠ []) (hfree : '$' ∉ b) (n : Nat) (rest : Text) :
    dollarBody n (b ++ '$' :: rest)
      = some (n + b.length + if rest.head? = some '$' then 2 else 1) := by
  obtain ⟨c, b, rfl⟩ := List.exists_cons_of_ne_nil hne
  have hfree : '$' ∉ b := fun h => hfree (List.mem_cons_of_mem c h)
  have hstop : ∀ a, a <:+ b → a ≠ [] → ∀ m, dollarEnd m (a ++ '$' :: rest) = none :=
    fun a ha hne m => dollarEnd_append (fun h => hfree (ha.subset h)) hne m _
  show runLazy .any dollarEnd (n + 1) (b ++ '$' :: rest) = _
  rw [runLazy_append (fun _ _ => rfl) hstop, runLazy_of_some (dollarEnd_dollar _ rest)]
  simp only [List.length_cons, Option.some.injEq]
  omega

/-- A body without a dollar behind it never ends. -/
theorem dollarBody_open {t : Text} (hfree : '$' ∉ t) (n : Nat) : dollarBody n t = none := by
  cases t with
  | nil => rfl
  | cons c t =>
    refine runLazy_eq_none (fun b hb m => ?_)
    refine dollarEnd_of_head (fun h => hfree (List.mem_cons_of_mem c (hb.subset ?_)))
    exact List.mem_of_mem_head? h

theorem matchLength?_of_head {t : Text} (h : t.head? ≠ some '$') :
    dollarEquation.matchLength? t = none := by
  show (optional (literal ['$'])).run ((literal ['$']).run dollarBody) 0 t = none
  rw [run_optional_of_none (run_literal_of_head h), run_literal_of_head h]

/-- One dollar opens an equation if no second one follows. -/
theorem matchLength?_dollar {t : Text} (h : t.head? ≠ some '$') :
    dollarEquation.matchLength? ('$' :: t) = dollarBody 1 t := by
  show (optional (literal ['$'])).run ((literal ['$']).run dollarBody) 0 ('$' :: t) = _
  rw [run_optional_of_none (by rw [run_literal_cons, run_literal_of_head h]), run_literal_cons]

/-- Two dollars open an equation together. -/
theorem matchLength?_dollars {t : Text} {m : Nat} (h : dollarBody 2 t = some m) :
    dollarEquation.matchLength? ('$' :: '$' :: t) = some m := by
  show (optional (literal ['$'])).run ((literal ['$']).run dollarBody) 0 ('$' :: '$' :: t) = _
  exact run_optional_of_some (by rw [run_literal_cons, run_literal_cons, h])

/-! ## Groups -/

/-- A body between two dollars. -/
def dollarPair (body : Text) : Text :=
  '$' :: (body ++ ['$'])

/-- A text that is one match wherever no dollar follows it. -/
def StandsAlone (g : Text) : Prop :=
  ∀ rest : Text, rest.head? ≠ some '$' →
    dollarEquation.segments (g ++ rest) = .hit g :: dollarEquation.segments rest

/-- A pair is one match. -/
theorem standsAlone_dollarPair {b : Text} (hne : b ≠ []) (hfree : '$' ∉ b) :
    StandsAlone (dollarPair b) := by
  intro rest hrest
  refine segments_append_of_match (by simp [dollarPair]) ?_
  have htext : dollarPair b ++ rest = '$' :: (b ++ '$' :: rest) := by simp [dollarPair]
  rw [htext, matchLength?_dollar (head?_append_of_free hne hfree _),
    dollarBody_closed hne hfree, if_neg hrest]
  simp [dollarPair, Nat.add_comm]

/-- A dollar in front of a pair belongs to the match. -/
theorem standsAlone_cons_dollarPair {b : Text} (hne : b ≠ []) (hfree : '$' ∉ b) :
    StandsAlone ('$' :: dollarPair b) := by
  intro rest hrest
  refine segments_append_of_match (by simp) ?_
  have htext : '$' :: dollarPair b ++ rest = '$' :: '$' :: (b ++ '$' :: rest) := by
    simp [dollarPair]
  have hbody := dollarBody_closed hne hfree 2 rest
  rw [if_neg hrest] at hbody
  rw [htext, matchLength?_dollars hbody]
  simp only [dollarPair, List.length_cons, List.length_append, List.length_nil,
    Option.some.injEq]
  omega

/-- A pair with a further dollar at either end is one match. -/
theorem standsAlone_display {b : Text} (hne : b ≠ []) (hfree : '$' ∉ b) :
    StandsAlone ('$' :: dollarPair b ++ ['$']) := by
  intro rest hrest
  refine segments_append_of_match (by simp) ?_
  have htext : '$' :: dollarPair b ++ ['$'] ++ rest = '$' :: '$' :: (b ++ '$' :: '$' :: rest) := by
    simp [dollarPair]
  rw [htext, matchLength?_dollars (dollarBody_closed hne hfree 2 _)]
  simp only [List.head?_cons, if_true, dollarPair, List.length_cons, List.length_append,
    List.length_nil, Option.some.injEq]
  omega

/-- A dollar behind a pair belongs to the match. -/
theorem segments_dollarPair_dollar {b : Text} (hne : b ≠ []) (hfree : '$' ∉ b) (rest : Text) :
    dollarEquation.segments (dollarPair b ++ '$' :: rest)
      = .hit (dollarPair b ++ ['$']) :: dollarEquation.segments rest := by
  have htext : dollarPair b ++ '$' :: rest = (dollarPair b ++ ['$']) ++ rest := by simp
  rw [htext]
  refine segments_append_of_match (by simp) ?_
  have htext : dollarPair b ++ ['$'] ++ rest = '$' :: (b ++ '$' :: '$' :: rest) := by
    simp [dollarPair]
  rw [htext, matchLength?_dollar (head?_append_of_free hne hfree _),
    dollarBody_closed hne hfree]
  simp only [List.head?_cons, if_true, dollarPair, List.length_cons, List.length_append, List.length_nil,
    Option.some.injEq]
  omega

/-! ## Prose -/

/-- Prose without a dollar is kept. -/
theorem segments_prose_append {t : Text} (hfree : '$' ∉ t) (rest : Text) :
    dollarEquation.segments (t ++ rest) = plain t ++ dollarEquation.segments rest := by
  induction t with
  | nil => rfl
  | cons c t ih =>
    have hc : c ≠ '$' := fun h => hfree (by simp [h])
    have hnone : dollarEquation.matchLength? (c :: (t ++ rest)) = none :=
      matchLength?_of_head (by simpa using hc)
    rw [List.cons_append, segments_of_no_match (by simp [hnone]),
      ih (fun h => hfree (List.mem_cons_of_mem c h))]
    rfl

theorem segments_prose {t : Text} (hfree : '$' ∉ t) :
    dollarEquation.segments t = plain t := by
  simpa using segments_prose_append hfree []

/-- A last dollar by itself is kept with the prose behind it. -/
theorem segments_dollar_prose {t : Text} (hfree : '$' ∉ t) :
    dollarEquation.segments ('$' :: t) = plain ('$' :: t) := by
  have hnone : dollarEquation.matchLength? ('$' :: t) = none := by
    rw [matchLength?_dollar (head?_of_free hfree), dollarBody_open hfree]
  rw [segments_of_no_match (by simp [hnone]), segments_prose hfree]
  rfl

/-! ## Groups with prose behind them -/

/-- Groups, each with the prose behind it, one after another. -/
def written (groups : List (Text × Text)) : Text :=
  groups.flatMap fun x => x.1 ++ x.2

/-- The segments of groups that are matched one by one. -/
def groupSegments (groups : List (Text × Text)) : List Segment :=
  groups.flatMap fun x => .hit x.1 :: plain x.2

@[simp] theorem written_nil : written [] = [] := rfl

@[simp] theorem written_cons (g p : Text) (groups : List (Text × Text)) :
    written ((g, p) :: groups) = g ++ p ++ written groups := by
  simp [written]

@[simp] theorem written_append (xs ys : List (Text × Text)) :
    written (xs ++ ys) = written xs ++ written ys := by
  simp [written]

@[simp] theorem groupSegments_nil : groupSegments [] = [] := rfl

@[simp] theorem groupSegments_cons (g p : Text) (groups : List (Text × Text)) :
    groupSegments ((g, p) :: groups) = .hit g :: (plain p ++ groupSegments groups) := by
  simp [groupSegments]

@[simp] theorem groupSegments_append (xs ys : List (Text × Text)) :
    groupSegments (xs ++ ys) = groupSegments xs ++ groupSegments ys := by
  simp [groupSegments]

@[simp] theorem spelled_groupSegments (groups : List (Text × Text)) :
    spelled (groupSegments groups) = written groups := by
  induction groups with
  | nil => rfl
  | cons x groups ih =>
    obtain ⟨g, p⟩ := x
    simp [ih, Segment.text]

/-- The matches in the segments of groups are the groups. -/
@[simp] theorem filterMap_match?_groupSegments (groups : List (Text × Text)) :
    (groupSegments groups).filterMap match? = groups.map Prod.fst := by
  induction groups with
  | nil => rfl
  | cons x groups ih =>
    obtain ⟨g, p⟩ := x
    simp [ih, match?]

/-- What the segments of groups keep is the prose. -/
@[simp] theorem flatMap_keptText_groupSegments (groups : List (Text × Text)) :
    (groupSegments groups).flatMap keptText = groups.flatMap Prod.snd := by
  induction groups with
  | nil => rfl
  | cons x groups ih =>
    obtain ⟨g, p⟩ := x
    simp [ih, keptText]

/-- Each group stands behind the groups in front of it and their prose. -/
theorem placed_groupSegments_cons (n : Nat) (g p : Text) (groups : List (Text × Text)) :
    placed n (groupSegments ((g, p) :: groups))
      = (n, g) :: placed (n + g.length + p.length) (groupSegments groups) := by
  rw [groupSegments_cons, placed, placed_append, placed_plain, spelled_plain, List.nil_append]

/-- Groups with prose between them and behind the last one are matched one by one. -/
theorem segments_written_append {groups : List (Text × Text)}
    (halone : ∀ x ∈ groups, StandsAlone x.1) (hfree : ∀ x ∈ groups, '$' ∉ x.2)
    (hne : ∀ x ∈ groups, x.2 ≠ []) (rest : Text) :
    dollarEquation.segments (written groups ++ rest)
      = groupSegments groups ++ dollarEquation.segments rest := by
  induction groups with
  | nil => rfl
  | cons x groups ih =>
    obtain ⟨g, p⟩ := x
    rw [List.forall_mem_cons] at halone hfree hne
    rw [written_cons, List.append_assoc, List.append_assoc,
      halone.1 _ (head?_append_of_free hne.1 hfree.1 _), segments_prose_append hfree.1,
      ih halone.2 hfree.2 hne.2]
    simp [groupSegments_cons]

/-- **Groups with prose between them are matched one by one.** -/
theorem segments_written {groups : List (Text × Text)}
    (halone : ∀ x ∈ groups, StandsAlone x.1) (hfree : ∀ x ∈ groups, '$' ∉ x.2)
    (hne : ∀ x ∈ groups.dropLast, x.2 ≠ []) :
    dollarEquation.segments (written groups) = groupSegments groups := by
  rcases List.eq_nil_or_concat' groups with rfl | ⟨init, ⟨g, p⟩, rfl⟩
  · simp
  · rw [List.dropLast_concat] at hne
    rw [List.forall_mem_append] at halone hfree
    have hg : StandsAlone g := halone.2 (g, p) (by simp)
    have hp : '$' ∉ p := hfree.2 (g, p) (by simp)
    rw [written_append, segments_written_append halone.1 hfree.1 hne]
    simp [hg p (head?_of_free hp), segments_prose hp]

end TexCensus.Markup
