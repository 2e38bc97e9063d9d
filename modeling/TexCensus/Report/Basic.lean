import TexCensus.Data.Bits
import TexCensus.Record.Basic
import TexCensus.Report.Date
import TexCensus.Report.Quoted

/-!
# Reports

A report shows a record on lines, by topic; a row shows it as named fields. Both need the date of
the record as text, so neither exists for a record whose date has none.

Tables are shown in first-seen order, ranked views by count. How many keys a ranked view shows is a
choice of the reader. The sum of a table is shown as 64 bits hold it.
-/

namespace TexCensus.Report

/-! ## Parts -/

/-- Keys with their counts. -/
def entriesText {K : Type} (key : K → Text) (entries : List (K × Nat)) : Text :=
  ['\x7b'] ++ joinWith ", ".toList (entries.map fun (k, n) => key k ++ ": ".toList ++ decimal n)
    ++ ['\x7d']

/-- A table with its entries in first-seen order. -/
def tableText {K : Type} [DecidableEq K] [Hashable K] (key : K → Text) (f : Frequency K) : Text :=
  entriesText key f.toList

/-- The `n` most common keys of a table with their counts. -/
def rankedText (f : Frequency Text) (n : Nat) : Text :=
  ['['] ++ joinWith ", ".toList ((f.mostCommon n).map fun (key, count) =>
    ['('] ++ quoted key ++ ", ".toList ++ decimal count ++ [')']) ++ [']']

/-- A line with a name and what it names. -/
def namedLine (name : String) (shown : Text) : Text :=
  name.toList ++ ": ".toList ++ shown ++ ['\n']

/-- A line with a name and a count. -/
def countLine (name : String) (n : Nat) : Text :=
  namedLine name (decimal n)

/-- The line that begins a topic. -/
def topicLine (topic : String) : Text :=
  "--- ".toList ++ topic.toList ++ " ---\n".toList

/-- A name and, on a line of its own, a ranked view. -/
def rankedLines (name : String) (f : Frequency Text) (n : Nat) : Text :=
  name.toList ++ ":\n ".toList ++ rankedText f n ++ ['\n']

/-- The equations of all kinds. -/
def equationsText (m : MarkupCounts) : Text :=
  decimal m.equations ++ " (display ".toList ++ decimal m.displayEquations
    ++ ", environments ".toList ++ decimal m.equationEnvironments
    ++ "; inline ".toList ++ decimal m.inlineEquations
    ++ ", dollar ".toList ++ decimal m.dollarEquations
    ++ ", subequations ".toList ++ decimal m.subequations ++ [')']

/-! ## Reports -/

/-- The first line, given the date as text. -/
def titleLine (s : Snapshot) (date : Text) : Text :=
  "Stats for ".toList ++ s.name ++ " - commit ".toList ++ s.commit ++ " - description - ".toList
    ++ s.description ++ " - date ".toList ++ date ++ ['\n']

/-- The numbers of words and stems. -/
def sizeLines (w : WordCounts) : Text :=
  countLine "word count" w.words
    ++ countLine "unique word count" w.distinctWords
    ++ countLine "stem count" w.stems
    ++ countLine "unique stem count" w.distinctStems

/-- What was counted in the markup, by topic. -/
def markupLines (m : MarkupCounts) : Text :=
  topicLine "Sectioning of the text"
    ++ countLine "parts" m.parts
    ++ countLine "chapters" m.chapters
    ++ countLine "sections" m.sections
    ++ countLine "subsections" m.subsections
    ++ countLine "subsubsections" m.subsubsections
    ++ topicLine "Referencing"
    ++ countLine "page cross references" m.pageReferences
    ++ countLine "figure/table/listing cross references" m.otherReferences
    ++ topicLine "Floats"
    ++ countLine "figures" m.figures
    ++ countLine "subfigures" m.subfigures
    ++ namedLine "subfigures in figures" (tableText decimal m.subfiguresPerFigure)
    ++ countLine "includegraphics" m.includedGraphics
    ++ namedLine "equations" (equationsText m)
    ++ countLine "listings" m.listings
    ++ countLine "inputminted" m.inputListings
    ++ countLine "tables" m.tables
    ++ topicLine "Bibliographic stuff"
    ++ countLine "citations" m.citations
    ++ countLine "index entries" m.indexEntries
    ++ countLine "footnotes" m.footnotes
    ++ namedLine "citation keys" (joinWith [' '] m.citationGroups)
    ++ topicLine "LaTeX stuff"
    ++ countLine "count of latex commands" (wrapped 64 m.commandTotal)
    ++ namedLine "latex commands" (tableText id m.commands)
    ++ countLine "count of latex environments" (wrapped 64 m.environmentTotal)
    ++ namedLine "latex environments" (tableText id m.environments)

/-- The `n` most common words and stems. -/
def wordLines (w : WordCounts) (n : Nat) : Text :=
  topicLine "Most common words"
    ++ rankedLines "most common words" w.wordFrequency n
    ++ rankedLines "most common interesting words" w.filteredWordFrequency n
    ++ rankedLines "most common stems" w.stemFrequency n
    ++ rankedLines "most common nonstopping stems" w.filteredStemFrequency n

/-- The corrections that changed counts, if there are any. -/
def correctionLines (corrections : List Text) : Text :=
  if corrections.isEmpty then []
  else topicLine "Corrections" ++ corrections.flatMap (· ++ ['\n'])

/-- A record on lines, with `n` keys in each ranked view. -/
def text? (n : Nat) (r : Record) : Option Text := do
  let date ← dateText? r.snapshot.date
  return titleLine r.snapshot date ++ sizeLines r.words ++ markupLines r.markup
    ++ wordLines r.words n ++ correctionLines r.corrections

/-! ## Rows -/

/-- The names of the fields of a row. -/
def columns : List Text :=
  ["filename", "commit_hash", "description", "date",
    "word_count", "unique_word_count", "stem_count", "unique_stem_count",
    "parts", "chapters", "sections", "subsections", "subsubsections",
    "page_cross_references", "figure_table_listing_cross_references",
    "figures", "subfigures", "subfigures_in_figures", "includegraphics",
    "equations", "display_equations", "equation_environments", "inline_equations",
    "dollar_equations", "subequations",
    "listings", "inputminted", "tables",
    "citations", "index_entries", "footnotes", "citation_keys",
    "latex_command_count", "latex_commands", "latex_env_count", "latex_environments",
    "most_common_words", "most_common_nonstopping_words",
    "most_common_stems", "most_common_nonstopping_stems",
    "corrections_applied"].map String.toList

/-- The fields of a record in the order of the columns, with `n` keys in each ranked view and the
date given as text. -/
def fields (n : Nat) (r : Record) (date : Text) : List Text :=
  let s := r.snapshot
  let m := r.markup
  let w := r.words
  [s.name, s.commit, s.description, date,
    decimal w.words, decimal w.distinctWords, decimal w.stems, decimal w.distinctStems,
    decimal m.parts, decimal m.chapters, decimal m.sections, decimal m.subsections,
    decimal m.subsubsections,
    decimal m.pageReferences, decimal m.otherReferences,
    decimal m.figures, decimal m.subfigures, tableText decimal m.subfiguresPerFigure,
    decimal m.includedGraphics,
    decimal m.equations, decimal m.displayEquations, decimal m.equationEnvironments,
    decimal m.inlineEquations, decimal m.dollarEquations, decimal m.subequations,
    decimal m.listings, decimal m.inputListings, decimal m.tables,
    decimal m.citations, decimal m.indexEntries, decimal m.footnotes,
    joinWith [' '] m.citationGroups,
    decimal (wrapped 64 m.commandTotal), tableText id m.commands,
    decimal (wrapped 64 m.environmentTotal), tableText id m.environments,
    rankedText w.wordFrequency n, rankedText w.filteredWordFrequency n,
    rankedText w.stemFrequency n, rankedText w.filteredStemFrequency n,
    joinWith "; ".toList r.corrections]

theorem length_fields (n : Nat) (r : Record) (date : Text) :
    (fields n r date).length = columns.length := by
  simp [fields, columns]

/-- The values of a record in the order of the columns. -/
def values? (n : Nat) (r : Record) : Option (List Text) :=
  (dateText? r.snapshot.date).map (fields n r)

/-- A record as named fields. -/
def row? (n : Nat) (r : Record) : Option (List (Text × Text)) :=
  (values? n r).map columns.zip

end TexCensus.Report
