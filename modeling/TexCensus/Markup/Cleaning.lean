import TexCensus.Markup.Comment
import TexCensus.Markup.Patterns
import TexCensus.Pattern.Search

/-!
# Cleaning

Cleaning turns comment-free LaTeX into prose by deleting markup in passes, each of which erases
every match of its patterns. The passes do not commute: labels go before equations because a key
may hold a dollar, which would otherwise open an equation that swallows the prose behind it.
-/

namespace TexCensus

/-- One deletion step. -/
inductive CleaningPass where
  /-- Included pictures. -/
  | includeGraphics
  /-- Labels. -/
  | label
  /-- Index entries. -/
  | index
  /-- Citations. -/
  | citation
  /-- References with their groups. -/
  | crossReference
  /-- Equations between dollars, then in escaped parentheses, then in escaped brackets. -/
  | unnumberedEquation
  /-- Whole equation environments; one without an end stays. -/
  | equationEnvironment
  /-- Included listings in the configured language. -/
  | inputListing
  /-- Whole subfigures, captions included. -/
  | subfigure
deriving DecidableEq, Repr

namespace CleaningPass

/-- The order in which records are built. -/
def canonical : List CleaningPass :=
  [includeGraphics, label, index, citation, crossReference, unnumberedEquation,
    equationEnvironment, inputListing, subfigure]

/-- The short name of a pass, used in traces. -/
def name : CleaningPass → Text
  | includeGraphics => "includegraphics".toList
  | label => "label".toList
  | index => "index".toList
  | citation => "cite".toList
  | crossReference => "ref".toList
  | unnumberedEquation => "unnumbered equations".toList
  | equationEnvironment => "equation environments".toList
  | inputListing => "inputminted".toList
  | subfigure => "subfigures".toList

/-- The pass of a given name. -/
def ofName? (t : Text) : Option CleaningPass :=
  canonical.find? (·.name = t)

/-- The patterns that a pass erases, one after another. Listings are erased in one language. -/
def patterns (listingLanguage : Text) : CleaningPass → List Pattern
  | includeGraphics => [Markup.includeGraphics]
  | label => [Markup.label]
  | index => [Markup.indexEntry]
  | citation => [Markup.citation]
  | crossReference => [Markup.crossReference]
  | unnumberedEquation =>
    [Markup.dollarEquation, Markup.parenEquation, Markup.bracketEquation]
  | equationEnvironment => [Markup.environment "equation"]
  | inputListing => [Markup.inputListing listingLanguage]
  | subfigure => [Markup.environment "subfigure"]

/-- Runs one pass. -/
def apply (listingLanguage : Text) (pass : CleaningPass) (t : Text) : Text :=
  (pass.patterns listingLanguage).foldl (fun t p => p.erase t) t

end CleaningPass

/-- A sequence of passes. -/
structure Cleaner where
  /-- The language whose included listings are deleted. -/
  listingLanguage : Text
  /-- The passes in the order in which they run. Passes may repeat or be left out. -/
  passes : List CleaningPass := CleaningPass.canonical
deriving DecidableEq, Repr

namespace Cleaner

/-- The cleaned text. -/
def clean (c : Cleaner) (t : Text) : Text :=
  c.passes.foldl (fun t pass => pass.apply c.listingLanguage t) t

/-- Each pass with the text after it. -/
def trace (c : Cleaner) (t : Text) : List (CleaningPass × Text) :=
  go t c.passes
where
  /-- The steps that are left, from the text so far. -/
  go (t : Text) : List CleaningPass → List (CleaningPass × Text)
    | [] => []
    | pass :: rest =>
      let next := pass.apply c.listingLanguage t
      (pass, next) :: go next rest

theorem trace.go_getLast? (c : Cleaner) (t : Text) (passes : List CleaningPass) :
    ((trace.go c t passes).getLast?.elim t Prod.snd)
      = passes.foldl (fun t pass => pass.apply c.listingLanguage t) t := by
  induction passes generalizing t with
  | nil => rfl
  | cons pass rest ih =>
    rw [trace.go, List.foldl_cons, ← ih]
    cases h : trace.go c (pass.apply c.listingLanguage t) rest with
    | nil => simp [List.getLast?_cons]
    | cons e es => simp [List.getLast?_cons]

/-- **The trace ends with the cleaned text.** -/
theorem getLast?_trace (c : Cleaner) (t : Text) :
    (c.trace t).getLast?.elim t Prod.snd = c.clean t :=
  trace.go_getLast? c t c.passes

end Cleaner

end TexCensus
