import TexCensus.Markup.Cleaning
import TexCensus.Proofs.Markup.Figures
import TexCensus.Proofs.Pattern.FirstPlace

/-!
# Passes as scanners

The passes for labels, index entries and included listings, and those for whole environments, cut
what a plain scanner cuts that goes through the text once and looks for fixed texts only
(`CleaningPass.cuts_scanned`).

A group is cut from its opening through the first closing brace of the line (`Markup.scanGroups`),
an environment from its first beginning through the first end behind it
(`Markup.scanEnvironments`).
-/

namespace TexCensus

open Segment

namespace Markup

open Pattern

/-! ## Scanners -/

/-- Reads through the first closing brace, if it comes before any line feed. -/
def readGroupEnd? : FrontReader
  | [] => none
  | c :: t =>
    if c = '}' then some ([c], t)
    else if c = '\n' then none
    else (readGroupEnd? t).map fun found => (c :: found.1, found.2)

/-- Reads a mark of an environment, starred or not. -/
def readMark? (keyword name : String) : FrontReader := fun t =>
  (readLiteral? (mark keyword name false) t).or (readLiteral? (mark keyword name true) t)

theorem splits_readGroupEnd? : FrontReader.Splits readGroupEnd? := by
  intro t body behind h
  induction t generalizing body behind with
  | nil => cases h
  | cons c t ih =>
    rw [readGroupEnd?] at h
    split at h
    · obtain ⟨rfl, rfl⟩ := Prod.mk.inj (Option.some.inj h)
      rfl
    · split at h
      · cases h
      · obtain ⟨⟨body, behind⟩, hlater, h⟩ := Option.map_eq_some_iff.1 h
        obtain ⟨rfl, rfl⟩ := Prod.mk.inj h
        exact congrArg (c :: ·) (ih _ _ hlater)

theorem readMark?_eq_some {keyword name : String} {t opening behind : Text}
    (h : readMark? keyword name t = some (opening, behind)) :
    (∃ starred, opening = mark keyword name starred) ∧ t = opening ++ behind := by
  rcases Option.or_eq_some_iff.1 h with h | ⟨-, h⟩
  · obtain ⟨rfl, ht⟩ := readLiteral?_eq_some_iff.1 h
    exact ⟨⟨false, rfl⟩, ht⟩
  · obtain ⟨rfl, ht⟩ := readLiteral?_eq_some_iff.1 h
    exact ⟨⟨true, rfl⟩, ht⟩

theorem mark_ne_nil (keyword name : String) (starred : Bool) : mark keyword name starred ≠ [] := by
  simp [mark, markStart]

theorem readMark?_nil (keyword name : String) : readMark? keyword name [] = none := by
  by_contra hread
  obtain ⟨found, hread⟩ := Option.ne_none_iff_exists'.1 hread
  obtain ⟨⟨starred, hmark⟩, hnil⟩ := readMark?_eq_some hread
  exact mark_ne_nil keyword name starred (hmark ▸ (List.append_eq_nil_iff.1 hnil.symm).1)

theorem splits_readMark? (keyword name : String) :
    FrontReader.Splits (readMark? keyword name) := fun _ _ _ h =>
  (readMark?_eq_some h).2

theorem mark_ne_nil_of_findFirst?_readMark? {keyword name : String} {t : Text} {found : Found}
    (h : findFirst? (readMark? keyword name) t = some found) : found.mark ≠ [] := by
  obtain ⟨⟨starred, hmark⟩, -⟩ :=
    readMark?_eq_some (read?_of_findFirst? (splits_readMark? _ _) h).2
  exact hmark ▸ mark_ne_nil keyword name starred

/-- Cuts a text through the groups that a command with its opening brace opens. An opening without
an end is passed over from behind its backslash. -/
def scanGroups (name t : Text) : List Segment :=
  match _ : findFirst? (readLiteral? ('\\' :: name)) t with
  | none => plain t
  | some opening =>
    match _ : readGroupEnd? opening.behind with
    | some (body, rest) => plain opening.front ++ hit (opening.mark ++ body) :: scanGroups name rest
    | none => plain opening.front ++ kept '\\' :: scanGroups name (name ++ opening.behind)
termination_by t.length
decreasing_by
  all_goals
    have hopening : findFirst? (readLiteral? ('\\' :: name)) t = some opening := ‹_›
    have ht := length_of_findFirst? (splits_readLiteral? _) hopening
    rw [mark_of_findFirst? hopening, List.length_cons] at ht
  · have hbehind := splits_readGroupEnd?.length_eq ‹readGroupEnd? _ = _›
    omega
  · rw [List.length_append]
    omega

/-- Cuts a text through the environments of a name. Nothing is cut from the first beginning without
an end behind it. -/
def scanEnvironments (name : String) (t : Text) : List Segment :=
  match _ : findFirst? (readMark? "\\begin" name) t with
  | none => plain t
  | some opening =>
    match _ : findFirst? (readMark? "\\end" name) opening.behind with
    | none => plain t
    | some closing =>
      plain opening.front ++ hit (opening.mark ++ (closing.front ++ closing.mark))
        :: scanEnvironments name closing.behind
termination_by t.length
decreasing_by
  have hopening : findFirst? (readMark? "\\begin" name) t = some opening := ‹_›
  have ht := length_of_findFirst? (splits_readMark? _ _) hopening
  have hmark := List.length_pos_of_ne_nil (mark_ne_nil_of_findFirst?_readMark? hopening)
  have hbehind := length_of_findFirst? (splits_readMark? _ _) ‹findFirst? _ opening.behind = _›
  omega

/-! ## Groups -/

/-- The lazy run of a group goes through the first closing brace of the line. -/
theorem runLazy_inline_eq (n : Nat) (t : Text) :
    runLazy .inline ((literal ['}']).run fun n _ => some n) n t
      = (readGroupEnd? t).map fun found => n + found.1.length := by
  induction t generalizing n with
  | nil => rfl
  | cons c t ih =>
    rw [runLazy, readGroupEnd?]
    by_cases hc : c = '}'
    · rw [hc, run_literal_cons, if_pos rfl]
      rfl
    · rw [run_literal_of_head (by simpa using hc), if_neg hc]
      by_cases hline : c = '\n'
      · rw [if_pos hline, hline]
        rfl
      · have hinline : CharSet.inline.has c = true := by simpa [CharSet.has] using hline
        show (if CharSet.inline.has c = true then _ else none) = _
        rw [if_pos hinline, ih, if_neg hline, Option.map_map]
        refine congrArg (Option.map · (readGroupEnd? t)) (funext fun found => ?_)
        show n + 1 + found.1.length = n + (found.1.length + 1)
        rw [Nat.add_assoc, Nat.add_comm 1]

/-- A pattern of an opening and a group matches from the opening through the end of the group. -/
theorem matchLength?_group (opening t : Text) :
    (seq (literal opening) bracedGroup).matchLength? t
      = (readLiteral? (opening ++ ['{']) t).bind fun found =>
          (readGroupEnd? found.2).map fun body => found.1.length + body.1.length := by
  show (literal opening).run ((literal ['{']).run
    (runLazy .inline ((literal ['}']).run fun n _ => some n))) 0 t = _
  rw [run_literal_literal, reads_literal]
  simp only [runLazy_inline_eq, Nat.zero_add]

/-- **A search for groups is a scan.** -/
theorem segments_eq_scanGroups {p : Pattern} {name : Text}
    (hp : ∀ t, p.matchLength? t = (readLiteral? ('\\' :: name) t).bind fun found =>
      (readGroupEnd? found.2).map fun body => found.1.length + body.1.length) (t : Text) :
    p.segments t = scanGroups name t := by
  have hfollows : p.Follows (readLiteral? ('\\' :: name)) := by
    intro t ht
    rw [hp, ht]
    rfl
  have hsplits := splits_readLiteral? ('\\' :: name)
  fun_induction scanGroups name t with
  | case1 t hnone => exact segments_of_findFirst?_none hfollows rfl hnone
  | case2 t opening hopening body rest hend ih =>
    obtain ⟨-, hread⟩ := read?_of_findFirst? hsplits hopening
    have hmatch : p.matchLength? (opening.mark ++ opening.behind)
        = some (opening.mark.length + body.length) := by
      rw [hp, hread, Option.bind_some, hend]
      rfl
    have hne : opening.mark ≠ [] := by simp [mark_of_findFirst? hopening]
    have hbehind : opening.behind = body ++ rest := splits_readGroupEnd? _ _ _ hend
    rw [segments_of_findFirst?_of_match hfollows hsplits hopening hne hbehind hmatch, ih]
  | case3 t opening hopening hend ih =>
    obtain ⟨-, hread⟩ := read?_of_findFirst? hsplits hopening
    have hnone : p.matchLength? (opening.mark ++ opening.behind) = none := by
      rw [hp, hread, Option.bind_some, hend]
      rfl
    rw [segments_of_findFirst? hfollows hsplits hopening]
    rw [mark_of_findFirst? hopening, List.cons_append] at hnone ⊢
    rw [segments_of_no_match (by simp [hnone]), ih]

/-- A group ends at its first closing brace, also where another one opens in it, and an opening
whose line ends first stays. -/
example : remainder (scanGroups "label\x7b".toList
    "\\label\x7ba\\label\x7bb\x7dc\x7d\n\\label\x7bd\n\\label\x7be\x7d".toList)
    = "c\x7d\n\\label\x7bd\n".toList := by
  decide +kernel

/-! ## Environments -/

variable {keyword name : String}

/-- Where no mark can be read the pattern of a mark refuses. -/
theorem run_environmentMark_of_none {t : Text} (h : readMark? keyword name t = none)
    (k : Continuation) (n : Nat) : (environmentMark keyword name).run k n t = none := by
  have hmark (starred : Bool) : ¬mark keyword name starred <+: t := by
    rintro ⟨behind, rfl⟩
    rw [readMark?, Option.or_eq_none_iff] at h
    have hread : readLiteral? (mark keyword name starred) (mark keyword name starred ++ behind)
        = some (mark keyword name starred, behind) := readLiteral?_eq_some_iff.2 ⟨rfl, rfl⟩
    cases starred with
    | false => rw [hread] at h; cases h.1
    | true => rw [hread] at h; cases h.2
  show (literal (markStart keyword name)).run ((optional (literal ['*'])).run
    ((literal ['}']).run k)) n t = none
  by_cases hstart : markStart keyword name <+: t
  · obtain ⟨t, rfl⟩ := hstart
    have hend (starred : Bool) : ¬markEnd starred <+: t := fun h =>
      hmark starred (List.prefix_append_right_inj _ |>.2 h)
    have hstar : (literal ['*']).run ((literal ['}']).run k)
        (n + (markStart keyword name).length) t = none := by
      rw [run_literal_literal]
      exact run_literal_of_not_prefix (hend true)
    rw [run_literal_append, run_optional_of_none hstar]
    exact run_literal_of_not_prefix (hend false)
  · exact run_literal_of_not_prefix hstart

/-- The pattern of a mark takes what reads as a mark. -/
theorem reads_environmentMark (keyword name : String) :
    (environmentMark keyword name).Reads (readMark? keyword name) := by
  intro k n t
  cases hread : readMark? keyword name t with
  | none => exact run_environmentMark_of_none hread k n
  | some found =>
    obtain ⟨⟨starred, hmark⟩, ht⟩ := readMark?_eq_some hread
    rw [Option.bind_some, ht, hmark]
    exact run_environmentMark keyword name starred k n found.2

/-- The pattern of an environment matches from a beginning through the first end behind it. -/
theorem matchLength?_environment (name : String) (t : Text) :
    (environment name).matchLength? t
      = (readMark? "\\begin" name t).bind fun opening =>
          (findFirst? (readMark? "\\end" name) opening.2).map fun closing =>
            opening.1.length + closing.front.length + closing.mark.length := by
  have hend : ∀ n t, (environmentMark "\\end" name).run (fun n _ => some n) n t
      = (readMark? "\\end" name t).map fun found => n + found.1.length := by
    intro n t
    rw [reads_environmentMark, Option.map_eq_bind]
    rfl
  show (seq (environmentMark "\\begin" name) (seq (lazy .any) _)).matchLength? t = _
  rw [(reads_environmentMark "\\begin" name).matchLength?_seq]
  refine congrArg (Option.bind (readMark? "\\begin" name t)) (funext fun opening => ?_)
  exact runLazy_any_eq (readMark?_nil "\\end" name) hend opening.1.length opening.2

/-- Where a character is missing in front, what begins with it stands behind. -/
theorem cons_suffix_of_suffix_append {c : Char} {w b behind : Text} (hc : c ∉ w)
    (h : c :: b <:+ w ++ behind) : c :: b <:+ behind := by
  obtain ⟨front, hfront⟩ := h
  rcases List.append_eq_append_iff.1 hfront with ⟨s, rfl, hs⟩ | ⟨s, -, hs⟩
  · cases s with
    | nil => exact ⟨[], hs⟩
    | cons d s =>
      obtain ⟨rfl, -⟩ := List.cons.inj hs
      exact absurd (by simp) hc
  · exact ⟨s, hs.symm⟩

/-- Behind a mark no mark begins in front of the text that is behind it. -/
theorem behind_suffix_of_readMark? (hname : ∀ starred, IsCommand (mark keyword name starred))
    {outer inner behind rest b : Text}
    (houter : readMark? keyword name (outer ++ behind) = some (outer, behind))
    (hinner : readMark? keyword name b = some (inner, rest)) (hb : b <:+ outer ++ behind) :
    rest <:+ behind := by
  obtain ⟨⟨starred, hmark⟩, -⟩ := readMark?_eq_some houter
  obtain ⟨w, hw, hw'⟩ := (hname starred).exists_eq
  obtain ⟨⟨starred', hmark'⟩, hrest⟩ := readMark?_eq_some hinner
  obtain ⟨v, hv, -⟩ := (hname starred').exists_eq
  rw [hmark, hw, List.cons_append, List.suffix_cons_iff] at hb
  rcases hb with hb | hb
  · rw [hb, ← List.cons_append, ← hw, ← hmark, houter] at hinner
    obtain ⟨-, rfl⟩ := Prod.mk.inj (Option.some.inj hinner)
    exact List.suffix_rfl
  · rw [hrest, hmark', hv] at hb
    have hbehind : '\\' :: v ++ rest <:+ behind := cons_suffix_of_suffix_append hw' hb
    exact (List.suffix_append _ _).trans hbehind

/-- **A search for environments is a scan.** -/
theorem segments_eq_scanEnvironments (hname : ∀ starred, IsCommand (mark "\\begin" name starred))
    (t : Text) : (environment name).segments t = scanEnvironments name t := by
  have hfollows : (environment name).Follows (readMark? "\\begin" name) :=
    (reads_environmentMark "\\begin" name).follows_seq _
  have hsplits := splits_readMark? "\\begin" name
  have hsplits' := splits_readMark? "\\end" name
  fun_induction scanEnvironments name t with
  | case1 t hnone => exact segments_of_findFirst?_none hfollows (readMark?_nil _ _) hnone
  | case2 t opening hopening hend =>
    obtain ⟨ht, hread⟩ := read?_of_findFirst? hsplits hopening
    have hrest : (environment name).segments (opening.mark ++ opening.behind)
        = plain (opening.mark ++ opening.behind) := by
      refine segments_eq_plain fun b hb => ?_
      rw [matchLength?_environment]
      cases hinner : readMark? "\\begin" name b with
      | none => rfl
      | some inner =>
        have hsuffix := behind_suffix_of_readMark? hname hread hinner hb
        rw [Option.bind_some, findFirst?_eq_none_of_suffix hend hsuffix]
        rfl
    rw [segments_of_findFirst? hfollows hsplits hopening, hrest, ← plain_append, ← ht]
  | case3 t opening hopening closing hend ih =>
    obtain ⟨-, hread⟩ := read?_of_findFirst? hsplits hopening
    obtain ⟨hbehind, -⟩ := read?_of_findFirst? hsplits' hend
    have hmatch : (environment name).matchLength? (opening.mark ++ opening.behind)
        = some (opening.mark.length + (closing.front ++ closing.mark).length) := by
      rw [matchLength?_environment, hread, Option.bind_some, hend, List.length_append,
        ← Nat.add_assoc]
      rfl
    have hne : opening.mark ≠ [] := mark_ne_nil_of_findFirst?_readMark? hopening
    rw [← List.append_assoc] at hbehind
    rw [segments_of_findFirst?_of_match hfollows hsplits hopening hne hbehind hmatch, ih]

/-- Stars and other beginnings do not matter inside an environment, and from a beginning without an
end everything stays. -/
example : remainder (scanEnvironments "equation" ("\\begin\x7bequation*\x7d\\begin\x7bequation\x7dx"
    ++ "\\end\x7bequation\x7dy\\end\x7bequation*\x7d\\begin\x7bequation\x7dz").toList)
    = "y\\end\x7bequation*\x7d\\begin\x7bequation\x7dz".toList := by
  decide +kernel

end Markup

/-! ## Passes -/

namespace CleaningPass

/-- Whether a pass cuts the spans that segments of a text show. -/
structure Cuts (language : Text) (pass : CleaningPass) (t : Text) (segs : List Segment) : Prop where
  /-- The segments make up the text. -/
  spelled_eq : spelled segs = t
  /-- The pass erases one pattern, which is found at these spans. -/
  segments_eq : ∃ p, pass.patterns language = [p] ∧ p.segments t = segs
  /-- What stands outside the spans is left. -/
  apply_eq : pass.apply language t = remainder segs

theorem cuts_of_segments {language t : Text} {pass : CleaningPass} {p : Pattern}
    {segs : List Segment} (hp : pass.patterns language = [p]) (hsegs : p.segments t = segs) :
    pass.Cuts language t segs where
  spelled_eq := hsegs ▸ Pattern.spell_segments p t
  segments_eq := ⟨p, hp, hsegs⟩
  apply_eq := by
    rw [apply, hp, ← hsegs]
    rfl

open Markup

/-- **Passes are scanners.** Labels, index entries and included listings are cut as a scan for their
openings cuts groups, and equation environments and subfigures as a scan for marks of their names
cuts environments. -/
theorem cuts_scanned (language t : Text) :
    label.Cuts language t (scanGroups "label\x7b".toList t)
      ∧ index.Cuts language t (scanGroups "index\x7b".toList t)
      ∧ inputListing.Cuts language t
          (scanGroups ("inputminted\x7b".toList ++ language ++ "\x7d\x7b".toList) t)
      ∧ equationEnvironment.Cuts language t (scanEnvironments "equation" t)
      ∧ subfigure.Cuts language t (scanEnvironments "subfigure" t) := by
  have hgroup (opening name : Text) (hname : opening ++ ['{'] = '\\' :: name) :
      (Pattern.seq (.literal opening) bracedGroup).segments t = scanGroups name t := by
    refine segments_eq_scanGroups (fun t => ?_) t
    rw [matchLength?_group, hname]
  refine ⟨?_, ?_, ?_, ?_, ?_⟩
  · exact cuts_of_segments rfl (hgroup "\\label".toList _ rfl)
  · exact cuts_of_segments rfl (hgroup "\\index".toList _ rfl)
  · exact cuts_of_segments rfl (hgroup _ _ (by simp))
  · exact cuts_of_segments rfl (segments_eq_scanEnvironments (by decide) t)
  · exact cuts_of_segments rfl (segments_eq_scanEnvironments (by decide) t)

end CleaningPass

end TexCensus
