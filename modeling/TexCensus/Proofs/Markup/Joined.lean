import Mathlib.Algebra.BigOperators.Group.List.Basic
import TexCensus.Markup.Counts
import TexCensus.Proofs.Frequency.Merge
import TexCensus.Proofs.Markup.Comment
import TexCensus.Proofs.Pattern.Inline

/-!
# Markup of joined texts

Most markup stands on one line, so it cannot begin in one text and end in the next. What is counted
by a pattern that stays on a line adds up when texts are joined by line feeds, whatever is
unfinished at the end of a text (`Markup.counts_unlines`). Display equations, equations between
dollars and whole figures may span lines and are left out.
-/

namespace TexCensus

/-- The numbers of markup that stands on one line. -/
def MarkupCounts.onLines : List (MarkupCounts → Nat) :=
  [parts, chapters, sections, subsections, subsubsections, pageReferences, otherReferences, figures,
    subfigures, equationEnvironments, inlineEquations, subequations, listings, tables,
    includedGraphics, inputListings, citations, indexEntries, footnotes]

namespace Markup

/-! ## Patterns that stay on a line -/

theorem command_staysInline : command.staysInline = true := by decide

theorem environmentBegin_staysInline : environmentBegin.staysInline = true := by decide

theorem equationBegin_staysInline : equationBegin.staysInline = true := by decide

theorem subequationsBegin_staysInline : subequationsBegin.staysInline = true := by decide

theorem parenEquation_staysInline : parenEquation.staysInline = true := by decide

theorem citation_staysInline : citation.staysInline = true := by decide

/-! ## Tables and groups -/

theorem commandFrequency_unlines (ts : List Text) :
    commandFrequency (unlines ts) = .merge (ts.map commandFrequency) := by
  rw [commandFrequency, Pattern.hits_unlines command_staysInline, Frequency.count_flatten,
    List.map_map]
  rfl

theorem environmentFrequency_unlines (ts : List Text) :
    environmentFrequency (unlines ts) = .merge (ts.map environmentFrequency) := by
  rw [environmentFrequency, Pattern.hits_unlines environmentBegin_staysInline, List.map_flatten,
    Frequency.count_flatten, List.map_map, List.map_map]
  rfl

theorem citationGroups_unlines (ts : List Text) :
    citationGroups (unlines ts) = ts.flatMap citationGroups := by
  rw [citationGroups, Pattern.hits_unlines citation_staysInline, List.map_flatten, List.map_map]
  rfl

/-! ## Numbers -/

/-- A number of a joined text is the sum of the numbers of the texts. -/
def AddsUp (field : MarkupCounts → Nat) : Prop :=
  ∀ ts : List Text, field (counts (unlines ts)) = (ts.map fun t => field (counts t)).sum

theorem AddsUp.add {f g : MarkupCounts → Nat} (hf : AddsUp f) (hg : AddsUp g) :
    AddsUp fun m => f m + g m := by
  intro ts
  show f (counts (unlines ts)) + g (counts (unlines ts))
    = (ts.map fun t => f (counts t) + g (counts t)).sum
  rw [hf, hg, List.sum_map_add]

/-- The count of a command adds up. -/
theorem addsUp_command (name : String) :
    AddsUp fun m => m.commands.get ('\\' :: name.toList) := by
  intro ts
  show (commandFrequency (unlines ts)).get _ = (ts.map fun t => (commandFrequency t).get _).sum
  rw [commandFrequency_unlines, Frequency.get_merge, List.map_map]
  rfl

/-- The count of an environment adds up. -/
theorem addsUp_environment (name : String) :
    AddsUp fun m => m.environments.get name.toList := by
  intro ts
  show (environmentFrequency (unlines ts)).get _
    = (ts.map fun t => (environmentFrequency t).get _).sum
  rw [environmentFrequency_unlines, Frequency.get_merge, List.map_map]
  rfl

theorem addsUp_onLines : ∀ field ∈ MarkupCounts.onLines, AddsUp field := by
  simp only [MarkupCounts.onLines, List.forall_mem_cons]
  exact ⟨addsUp_command "part", addsUp_command "chapter", addsUp_command "section",
    addsUp_command "subsection", addsUp_command "subsubsection", addsUp_command "pageref",
    (addsUp_command "ref").add (addsUp_command "autoref"),
    addsUp_environment "figure", addsUp_environment "subfigure",
    Pattern.countIn_unlines equationBegin_staysInline,
    Pattern.countIn_unlines parenEquation_staysInline,
    Pattern.countIn_unlines subequationsBegin_staysInline,
    addsUp_environment "listing", addsUp_environment "table",
    addsUp_command "includegraphics", addsUp_command "inputminted",
    (addsUp_command "cite").add (addsUp_command "citeauthor"),
    addsUp_command "index", addsUp_command "footnote", by simp⟩

/-! ## Joined texts -/

/-- **The counts of joined texts add up.** Of any texts joined by line feeds, every number of markup
on a line is the sum over the texts, the groups of the citations are those of the texts one after
another, and the tables of commands and environments are made by adding the entries of the texts'
own tables one table after another. -/
theorem counts_unlines (ts : List Text) :
    let joined := counts (stripComments (unlines ts))
    let single := ts.map fun t => counts (stripComments t)
    (∀ field ∈ MarkupCounts.onLines, field joined = (single.map field).sum)
      ∧ joined.citationGroups = single.flatMap MarkupCounts.citationGroups
      ∧ joined.commands = .merge (single.map MarkupCounts.commands)
      ∧ joined.environments = .merge (single.map MarkupCounts.environments) := by
  intro joined single
  have hjoined : joined = counts (unlines (ts.map stripComments)) := by
    rw [← stripComments_unlines]
  have hsingle : single = (ts.map stripComments).map counts := by
    rw [List.map_map]
    rfl
  rw [hjoined, hsingle]
  generalize ts.map stripComments = sources
  refine ⟨?_, ?_, ?_, ?_⟩
  · intro field hfield
    rw [addsUp_onLines field hfield, List.map_map]
    rfl
  · rw [List.flatMap_map]
    exact citationGroups_unlines sources
  · rw [List.map_map]
    exact commandFrequency_unlines sources
  · rw [List.map_map]
    exact environmentFrequency_unlines sources

end Markup

end TexCensus
