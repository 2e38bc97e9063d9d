import TexCensus.Markup.Cleaning
import TexCensus.Proofs.Pattern.Inline

/-!
# Passes that go line by line

Of the passes, those whose patterns stay on a line (`CleaningPass.StaysOnLine`) treat each line as
if it were the whole text, and so does any sequence of them. What is left open on one line, a
brace, a bracket or a command without its group, cannot reach into the next one
(`Cleaner.clean_lineByLine`).
-/

namespace TexCensus

/-! ## Maps that go line by line -/

/-- Whether a map on texts treats each line by itself and makes one line of it. -/
structure GoesByLine (f : Text → Text) : Prop where
  /-- A line feed separates what is done to either side. -/
  append_newline : ∀ a b : Text, f (a ++ '\n' :: b) = f a ++ '\n' :: f b
  /-- A line stays a line. -/
  newline_not_mem : ∀ line : Text, '\n' ∉ line → '\n' ∉ f line

namespace GoesByLine

variable {f g : Text → Text}

theorem id : GoesByLine fun t => t where
  append_newline _ _ := rfl
  newline_not_mem _ h := h

theorem comp (hg : GoesByLine g) (hf : GoesByLine f) : GoesByLine fun t => g (f t) where
  append_newline a b := by rw [hf.append_newline, hg.append_newline]
  newline_not_mem line h := hg.newline_not_mem _ (hf.newline_not_mem line h)

/-- Maps that go line by line can be applied one after another. -/
theorem foldl {I : Type} {step : I → Text → Text} {items : List I}
    (h : ∀ item ∈ items, GoesByLine (step item)) :
    GoesByLine fun t => items.foldl (fun t item => step item t) t := by
  induction items with
  | nil => exact id
  | cons item items ih =>
    rw [List.forall_mem_cons] at h
    exact (ih h.2).comp h.1

theorem unlines_map (hf : GoesByLine f) {ls : List Text} (hne : ls ≠ []) :
    f (unlines ls) = unlines (ls.map f) := by
  induction ls with
  | nil => exact absurd rfl hne
  | cons line ls ih =>
    cases ls with
    | nil => simp [unlines]
    | cons next ls =>
      rw [unlines_cons_cons, hf.append_newline, ih (List.cons_ne_nil next ls)]
      exact (unlines_cons_cons (f line) (f next) (ls.map f)).symm

/-- **The lines of the result are made of the lines one by one.** -/
theorem lines_eq (hf : GoesByLine f) (t : Text) : lines (f t) = (lines t).map f := by
  have hne : lines t ≠ [] := splitOn_ne_nil '\n' t
  have hjoined : f t = unlines ((lines t).map f) := by
    rw [← hf.unlines_map hne]
    exact congrArg f (joinWith_splitOn '\n' t).symm
  rw [hjoined]
  refine lines_unlines (by simpa using hne) ?_
  rw [List.forall_mem_map]
  exact fun line hline => hf.newline_not_mem line (not_mem_of_mem_splitOn hline)

/-- No line feed is lost and none is added. -/
theorem count_newline (hf : GoesByLine f) (t : Text) : (f t).count '\n' = t.count '\n' := by
  have hlength : (lines (f t)).length = (lines t).length := by
    rw [hf.lines_eq, List.length_map]
  rw [length_lines, length_lines] at hlength
  exact Nat.succ.inj hlength

end GoesByLine

/-! ## Erasing -/

namespace Pattern

/-- Erasing adds no characters. -/
theorem erase_subset (p : Pattern) (t : Text) : p.erase t ⊆ t := by
  intro c hc
  obtain ⟨s, hs, hkept⟩ := List.mem_flatMap.1 hc
  rw [← spell_segments p t]
  refine List.mem_flatMap.2 ⟨s, hs, ?_⟩
  cases s with
  | kept d => exact hkept
  | hit m => cases hkept

theorem goesByLine_erase {p : Pattern} (hp : p.staysInline = true) : GoesByLine p.erase where
  append_newline := erase_append_newline hp
  newline_not_mem line h hmem := h (p.erase_subset line hmem)

end Pattern

/-! ## Passes -/

namespace CleaningPass

/-- The passes whose markup stands on one line: all but those for equations and environments.
Included listings belong to them if their language has no line feed. -/
def StaysOnLine (language : Text) : CleaningPass → Prop
  | includeGraphics | label | index | citation | crossReference => True
  | inputListing => '\n' ∉ language
  | unnumberedEquation | equationEnvironment | subfigure => False

variable {language : Text} {pass : CleaningPass}

theorem inputListing_staysInline (h : '\n' ∉ language) :
    (Markup.inputListing language).staysInline = true := by
  have hgroup : Markup.bracedGroup.staysInline = true := by decide
  have hmark : '\n' ∉ "\\inputminted\x7b".toList := by decide
  simpa [Markup.inputListing, Pattern.staysInline, hgroup, hmark] using h

/-- A pass whose markup stands on one line has patterns that stay on a line. -/
theorem StaysOnLine.staysInline (h : pass.StaysOnLine language) :
    ∀ p ∈ pass.patterns language, p.staysInline = true := by
  cases pass with
  | includeGraphics | label | index | citation | crossReference =>
    exact List.forall_mem_singleton.2 (by decide)
  | inputListing => exact List.forall_mem_singleton.2 (inputListing_staysInline h)
  | unnumberedEquation | equationEnvironment | subfigure => exact h.elim

theorem StaysOnLine.goesByLine (h : pass.StaysOnLine language) :
    GoesByLine (pass.apply language) :=
  GoesByLine.foldl fun p hp => Pattern.goesByLine_erase (h.staysInline p hp)

end CleaningPass

namespace Cleaner

theorem goesByLine_clean {c : Cleaner}
    (h : ∀ pass ∈ c.passes, pass.StaysOnLine c.listingLanguage) : GoesByLine c.clean :=
  GoesByLine.foldl fun pass hpass => (h pass hpass).goesByLine

/-- **What is left open on a line stays on it.** A pass whose markup stands on one line does to
both sides of a line feed what it does to each of them alone. So a sequence of such passes keeps
every line feed and cleans each line as if there were no other. -/
theorem clean_lineByLine (language : Text) :
    (∀ pass : CleaningPass, pass.StaysOnLine language → ∀ a b : Text,
      pass.apply language (a ++ '\n' :: b)
        = pass.apply language a ++ '\n' :: pass.apply language b)
      ∧ ∀ c : Cleaner, c.listingLanguage = language →
        (∀ pass ∈ c.passes, pass.StaysOnLine language) → ∀ t : Text,
          lines (c.clean t) = (lines t).map c.clean
            ∧ (c.clean t).count '\n' = t.count '\n' := by
  refine ⟨fun pass h => h.goesByLine.append_newline, ?_⟩
  rintro c rfl h t
  exact ⟨(goesByLine_clean h).lines_eq t, (goesByLine_clean h).count_newline t⟩

/-- A label, a reference and a listing that are left open in front of a line feed, though what would
close them stands behind it. -/
theorem clean_lineByLine_of_open_markup :
    let c : Cleaner := {
      listingLanguage := "c++".toList
      passes := [.label, .crossReference, .inputListing] }
    let a := "\\inputminted\x7bc++\x7d\x7bp \\ref[x \\label\x7bu".toList
    let b := "y\x7d v] \\ref\x7bk\x7d w".toList
    (∀ pass ∈ c.passes, pass.StaysOnLine c.listingLanguage)
      ∧ c.clean a = "\\inputminted\x7bc++\x7d\x7bp [x \\label\x7bu".toList
      ∧ c.clean b = "y\x7d v]  w".toList
      ∧ CleaningPass.label.apply c.listingLanguage (a ++ '\n' :: b)
          = CleaningPass.label.apply c.listingLanguage a
            ++ '\n' :: CleaningPass.label.apply c.listingLanguage b
      ∧ lines (c.clean (a ++ '\n' :: b)) = [c.clean a, c.clean b] := by
  intro c a b
  have hpasses : ∀ pass ∈ c.passes, pass.StaysOnLine c.listingLanguage := by
    simp only [c, List.forall_mem_cons, CleaningPass.StaysOnLine]
    exact ⟨trivial, trivial, by decide, by simp⟩
  obtain ⟨hpass, hclean⟩ := clean_lineByLine c.listingLanguage
  obtain ⟨hlines, -⟩ := hclean c rfl hpasses (a ++ '\n' :: b)
  refine ⟨hpasses, by decide +kernel, by decide +kernel,
    hpass .label (hpasses .label (by simp [c])) a b, ?_⟩
  rw [hlines, lines, splitOn_append]
  rfl

end Cleaner

end TexCensus
