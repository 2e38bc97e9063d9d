import TexCensus.Markup.Cleaning
import TexCensus.Markup.Counts
import TexCensus.Proofs.Markup.Dollar

/-!
# Texts of equations between dollars

Prose with equations in it, some between single and some between double dollars. If there is no
other dollar and prose stands between neighbours, the search takes each equation with all its
dollars and nothing else, whichever kinds stand next to each other (`DollarText.segments_text`). So
as many dollar equations are counted as were written, and where the prose has no backslash the pass
that deletes unnumbered equations leaves just the prose (`DollarText.finds_equations`).
-/

namespace TexCensus.Markup

open Pattern Segment

/-! ## Equations -/

/-- An equation between dollars. -/
structure DollarMath where
  /-- Whether the dollars are double. -/
  display : Bool
  /-- What stands between the dollars. -/
  body : Text
deriving DecidableEq, Repr

namespace DollarMath

/-- The dollars at either end. -/
def delimiter (e : DollarMath) : Text :=
  if e.display then ['$', '$'] else ['$']

/-- The equation with its dollars. -/
def text (e : DollarMath) : Text :=
  e.delimiter ++ e.body ++ e.delimiter

/-- An equation with a body is one match, whichever its dollars. -/
theorem standsAlone {e : DollarMath} (hne : e.body ≠ []) (hfree : '$' ∉ e.body) :
    StandsAlone e.text := by
  obtain ⟨display, body⟩ := e
  cases display with
  | false => exact standsAlone_dollarPair hne hfree
  | true =>
    have htext : (DollarMath.mk true body).text = '$' :: dollarPair body ++ ['$'] := by
      simp [text, delimiter, dollarPair]
    rw [htext]
    exact standsAlone_display hne hfree

end DollarMath

/-! ## Texts -/

/-- Prose with equations in it. -/
structure DollarText where
  /-- The prose in front of the first equation. -/
  front : Text
  /-- Each equation with the prose behind it. -/
  parts : List (DollarMath × Text)
deriving DecidableEq, Repr

namespace DollarText

/-- The equations. -/
def equations (d : DollarText) : List DollarMath :=
  d.parts.map Prod.fst

/-- The text without its equations. -/
def prose (d : DollarText) : Text :=
  d.front ++ d.parts.flatMap Prod.snd

/-- The equations with their dollars, each with the prose behind it. -/
def groups (d : DollarText) : List (Text × Text) :=
  d.parts.map fun x => (x.1.text, x.2)

/-- The text that is written. -/
def text (d : DollarText) : Text :=
  d.front ++ written d.groups

/-- Dollars stand around bodies only, no body is empty, and there is prose between neighbours. -/
structure WellFormed (d : DollarText) : Prop where
  /-- There is no dollar in front. -/
  front_free : '$' ∉ d.front
  /-- No body is empty. -/
  body_ne_nil : ∀ x ∈ d.parts, x.1.body ≠ []
  /-- There is no dollar in a body. -/
  body_free : ∀ x ∈ d.parts, '$' ∉ x.1.body
  /-- There is no dollar behind an equation. -/
  prose_free : ∀ x ∈ d.parts, '$' ∉ x.2
  /-- There is prose behind every equation but the last. -/
  prose_ne_nil : ∀ x ∈ d.parts.dropLast, x.2 ≠ []

/-- The text with its equations as the matches. -/
def segments (d : DollarText) : List Segment :=
  plain d.front ++ groupSegments d.groups

variable {d : DollarText}

/-- **The matches are the equations.** -/
theorem segments_text (h : d.WellFormed) : dollarEquation.segments d.text = d.segments := by
  have halone : ∀ x ∈ d.groups, StandsAlone x.1 := by
    intro x hx
    obtain ⟨y, hy, rfl⟩ := List.mem_map.1 hx
    exact DollarMath.standsAlone (h.body_ne_nil y hy) (h.body_free y hy)
  have hfree : ∀ x ∈ d.groups, '$' ∉ x.2 := by
    intro x hx
    obtain ⟨y, hy, rfl⟩ := List.mem_map.1 hx
    exact h.prose_free y hy
  have hne : ∀ x ∈ d.groups.dropLast, x.2 ≠ [] := by
    intro x hx
    rw [groups, ← List.map_dropLast] at hx
    obtain ⟨y, hy, rfl⟩ := List.mem_map.1 hx
    exact h.prose_ne_nil y hy
  rw [text, segments_prose_append h.front_free, segments_written halone hfree hne]
  rfl

/-- The matches in order are the equations in order. -/
theorem hits_text (h : d.WellFormed) :
    dollarEquation.hits d.text = d.equations.map DollarMath.text := by
  rw [hits, segments_text h]
  simp [segments, groups, equations]

/-- Erasing the matches leaves the prose. -/
theorem erase_text (h : d.WellFormed) : dollarEquation.erase d.text = d.prose := by
  rw [erase, segments_text h]
  simp [segments, groups, prose, List.flatMap_map]

/-- Where the prose has no backslash, deleting unnumbered equations leaves just the prose. -/
theorem apply_text (h : d.WellFormed) (hprose : '\\' ∉ d.prose) (language : Text) :
    CleaningPass.unnumberedEquation.apply language d.text = d.prose := by
  have hparen : parenEquation.erase d.prose = d.prose := erase_of_not_mem _ hprose
  have hbracket : bracketEquation.erase d.prose = d.prose := erase_of_not_mem _ hprose
  show bracketEquation.erase (parenEquation.erase (dollarEquation.erase d.text)) = d.prose
  rw [erase_text h, hparen, hbracket]

/-- **Equations between dollars are found one by one.** Where dollars stand around bodies only and
there is prose between neighbours, the number of dollar equations is the number of equations written,
and the matches are these equations at their places. If there is no backslash in the prose, deleting
unnumbered equations leaves the prose, without a character more or less; the bodies may hold
anything but a dollar. -/
theorem finds_equations (h : d.WellFormed) :
    (counts d.text).dollarEquations = d.equations.length ∧
      dollarEquation.hits d.text = d.equations.map DollarMath.text ∧
      dollarEquation.segments d.text = d.segments ∧
      ('\\' ∉ d.prose →
        ∀ language, CleaningPass.unnumberedEquation.apply language d.text = d.prose) := by
  refine ⟨?_, hits_text h, segments_text h, apply_text h⟩
  show (dollarEquation.hits d.text).length = d.equations.length
  rw [hits_text h, List.length_map]

/-- A single and a double kind side by side, with line feeds and escaped brackets in the bodies. -/
theorem finds_equations_of_both_kinds :
    let d : DollarText := ⟨[], [(⟨false, "\\(x".toList⟩, "e ".toList),
      (⟨true, "a\nb\\]".toList⟩, ", ".toList), (⟨false, "y".toList⟩, [])]⟩
    d.WellFormed ∧ d.text = "$\\(x$e $$a\nb\\]$$, $y$".toList ∧
      (counts d.text).dollarEquations = 3 ∧
      CleaningPass.unnumberedEquation.apply [] d.text = "e , ".toList := by
  intro d
  have h : d.WellFormed := ⟨by decide, by decide, by decide, by decide, by decide⟩
  obtain ⟨hcount, -, -, happly⟩ := finds_equations h
  exact ⟨h, by decide, hcount, happly (by decide) []⟩

end DollarText

end TexCensus.Markup
