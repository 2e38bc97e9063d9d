import TexCensus.Frequency.Basic
import TexCensus.Markup.Patterns
import TexCensus.Pattern.Search

/-!
# Markup counts

Counts of sectioning, floats, equations, references and citations in comment-free LaTeX. Every
number counts matches of a pattern: a command inside verbatim text counts like one in prose.

Command keys keep their backslash, environment keys have none, and a starred environment counts
under its plain name.
-/

namespace TexCensus

/-- What was counted in the markup of one text. -/
structure MarkupCounts where
  /-- Parts. -/
  parts : Nat := 0
  /-- Chapters. -/
  chapters : Nat := 0
  /-- Sections. -/
  sections : Nat := 0
  /-- Subsections. -/
  subsections : Nat := 0
  /-- Subsubsections. -/
  subsubsections : Nat := 0
  /-- References to pages. -/
  pageReferences : Nat := 0
  /-- References to anything else. -/
  otherReferences : Nat := 0
  /-- Figure environments. -/
  figures : Nat := 0
  /-- Subfigure environments. -/
  subfigures : Nat := 0
  /-- Display equations in escaped brackets. -/
  displayEquations : Nat := 0
  /-- Beginnings of equation environments. -/
  equationEnvironments : Nat := 0
  /-- Display equations and equation environments together. -/
  equations : Nat := 0
  /-- Inline equations in escaped parentheses. -/
  inlineEquations : Nat := 0
  /-- Equations between dollars. -/
  dollarEquations : Nat := 0
  /-- Beginnings of groups of subequations. -/
  subequations : Nat := 0
  /-- Listing environments. -/
  listings : Nat := 0
  /-- Table environments. -/
  tables : Nat := 0
  /-- Included pictures. -/
  includedGraphics : Nat := 0
  /-- Included listings. -/
  inputListings : Nat := 0
  /-- Citations by key or author. -/
  citations : Nat := 0
  /-- Index entries. -/
  indexEntries : Nat := 0
  /-- Footnotes. -/
  footnotes : Nat := 0
  /-- For each number of subfigures, how many figures hold that many. -/
  subfiguresPerFigure : Frequency Nat := ∅
  /-- Every command with its backslash. -/
  commands : Frequency Text := ∅
  /-- Every environment by its plain name. -/
  environments : Frequency Text := ∅
  /-- The groups of the citations in order of use, empty for a citation without one. -/
  citationGroups : List Text := []
deriving DecidableEq

namespace MarkupCounts

/-- The number of commands. -/
def commandTotal (m : MarkupCounts) : Nat :=
  m.commands.total

/-- The number of environments. -/
def environmentTotal (m : MarkupCounts) : Nat :=
  m.environments.total

/-- Whether the equations are the display equations and the equation environments. -/
def EquationsAddUp (m : MarkupCounts) : Prop :=
  m.equations = m.displayEquations + m.equationEnvironments

instance (m : MarkupCounts) : Decidable m.EquationsAddUp :=
  inferInstanceAs (Decidable (_ = _))

end MarkupCounts

namespace Markup

/-- The commands of a text. -/
def commandFrequency (t : Text) : Frequency Text :=
  .count (command.hits t)

/-- The environments of a text by plain name. -/
def environmentFrequency (t : Text) : Frequency Text :=
  .count ((environmentBegin.hits t).map environmentName)

/-- How many subfigures the figures hold. -/
def subfiguresPerFigure (t : Text) : Frequency Nat :=
  .count (((environment "figure").hits t).map (environment "subfigure").countIn)

/-- The groups of the citations in order. -/
def citationGroups (t : Text) : List Text :=
  (citation.hits t).map citationGroup

/-- Counts the markup of a comment-free text. -/
def counts (t : Text) : MarkupCounts :=
  let commands := commandFrequency t
  let environments := environmentFrequency t
  let ofCommand (name : String) : Nat := commands.get ('\\' :: name.toList)
  let ofEnvironment (name : String) : Nat := environments.get name.toList
  let displayEquations := bracketEquation.countIn t
  let equationEnvironments := equationBegin.countIn t
  { parts := ofCommand "part"
    chapters := ofCommand "chapter"
    sections := ofCommand "section"
    subsections := ofCommand "subsection"
    subsubsections := ofCommand "subsubsection"
    pageReferences := ofCommand "pageref"
    otherReferences := ofCommand "ref" + ofCommand "autoref"
    figures := ofEnvironment "figure"
    subfigures := ofEnvironment "subfigure"
    displayEquations := displayEquations
    equationEnvironments := equationEnvironments
    equations := displayEquations + equationEnvironments
    inlineEquations := parenEquation.countIn t
    dollarEquations := dollarEquation.countIn t
    subequations := subequationsBegin.countIn t
    listings := ofEnvironment "listing"
    tables := ofEnvironment "table"
    includedGraphics := ofCommand "includegraphics"
    inputListings := ofCommand "inputminted"
    citations := ofCommand "cite" + ofCommand "citeauthor"
    indexEntries := ofCommand "index"
    footnotes := ofCommand "footnote"
    subfiguresPerFigure := subfiguresPerFigure t
    commands := commands
    environments := environments
    citationGroups := citationGroups t }

theorem counts_equationsAddUp (t : Text) : (counts t).EquationsAddUp := rfl

end Markup

end TexCensus
