import TexCensus.Json.Members
import TexCensus.Json.Printer
import TexCensus.Record.Basic

/-!
# Records as documents

A record is written as one flat object: the snapshot, the markup and the words one after another,
and the list of corrections. A table is an array of pairs of a key and its count, in first-seen
order.

When a record is read, the members may stand in any order and unknown ones are ignored. Each known
member has to be there once, but the list of corrections may be missing. Pairs with equal keys are
summed, and pairs with count zero vanish.
-/

namespace TexCensus

/-! ## Tables -/

namespace Frequency

variable {K : Type} [DecidableEq K] [Hashable K]

/-- A table as a value. -/
def toValue (key : K → Value) (f : Frequency K) : Value :=
  .array (f.toList.map fun (k, n) => .array [key k, .ofNat n])

/-- The pair of a key and a count that a value is. -/
def pair? (key? : Value → Option K) : Value → Option (K × Nat)
  | .array [k, n] => do return (← key? k, ← n.natural?)
  | _ => none

/-- The table that a value is. -/
def ofValue? (key? : Value → Option K) (v : Value) : Option (Frequency K) := do
  return ofPairs (← (← v.array?).mapM (pair? key?))

/-- Reads a table. -/
def read (key? : Value → Option K) (t : Text) : Except Json.Fault (Frequency K) :=
  ((Json.Reader.counts key?).runText .start t).map ofPairs

end Frequency

/-! ## Writing records -/

/-- The members of a snapshot. -/
def Snapshot.members (s : Snapshot) : List (Text × Value) := [
  ("name".toList, .text s.name),
  ("commit_hash".toList, .text s.commit),
  ("date".toList, .integer s.date),
  ("description".toList, .text s.description)]

/-- The members of markup counts. -/
def MarkupCounts.members (m : MarkupCounts) : List (Text × Value) := [
  ("part_count".toList, .ofNat m.parts),
  ("chapter_count".toList, .ofNat m.chapters),
  ("section_count".toList, .ofNat m.sections),
  ("subsection_count".toList, .ofNat m.subsections),
  ("subsubsection_count".toList, .ofNat m.subsubsections),
  ("page_cross_ref_count".toList, .ofNat m.pageReferences),
  ("other_cross_ref_count".toList, .ofNat m.otherReferences),
  ("figure_count".toList, .ofNat m.figures),
  ("subfigure_count".toList, .ofNat m.subfigures),
  ("display_equation_count".toList, .ofNat m.displayEquations),
  ("equation_environment_count".toList, .ofNat m.equationEnvironments),
  ("equation_count".toList, .ofNat m.equations),
  ("inline_equation_count".toList, .ofNat m.inlineEquations),
  ("dollar_equation_count".toList, .ofNat m.dollarEquations),
  ("subequation_count".toList, .ofNat m.subequations),
  ("listing_count".toList, .ofNat m.listings),
  ("table_count".toList, .ofNat m.tables),
  ("includegraphics_count".toList, .ofNat m.includedGraphics),
  ("inputminted_count".toList, .ofNat m.inputListings),
  ("citation_count".toList, .ofNat m.citations),
  ("index_count".toList, .ofNat m.indexEntries),
  ("footnote_count".toList, .ofNat m.footnotes),
  ("subfigures_per_figure".toList, m.subfiguresPerFigure.toValue .ofNat),
  ("command_frequency".toList, m.commands.toValue .text),
  ("environment_frequency".toList, m.environments.toValue .text),
  ("citation_keys_used".toList, .array (m.citationGroups.map .text))]

/-- The members of word counts. -/
def WordCounts.members (w : WordCounts) : List (Text × Value) := [
  ("word_count".toList, .ofNat w.words),
  ("unique_word_count".toList, .ofNat w.distinctWords),
  ("stem_count".toList, .ofNat w.stems),
  ("unique_stem_count".toList, .ofNat w.distinctStems),
  ("word_frequency".toList, w.wordFrequency.toValue .text),
  ("filtered_word_frequency".toList, w.filteredWordFrequency.toValue .text),
  ("stem_frequency".toList, w.stemFrequency.toValue .text),
  ("filtered_stem_frequency".toList, w.filteredStemFrequency.toValue .text)]

/-- The name of the list of corrections. -/
def correctionsName : Text :=
  "corrections_applied".toList

namespace Record

/-- The members of a record in the order in which they are written. -/
def members (r : Record) : List (Text × Value) :=
  r.snapshot.members ++ r.markup.members ++ r.words.members
    ++ [(correctionsName, .array (r.corrections.map .text))]

/-- A record as a value. -/
def toValue (r : Record) : Value :=
  .object r.members

/-- A record as JSON on lines. -/
def toJson (r : Record) : Text :=
  Json.print r.toValue

end Record

/-! ## Reading records -/

/-- The value of the only member of a given name. -/
def onlyMember? (members : List (Text × Value)) (name : String) : Option Value :=
  match members.filter (·.1 = name.toList) with
  | [(_, v)] => some v
  | _ => none

/-- An integer of 64 bits with a sign. -/
def Value.signed? (v : Value) : Option Int := do
  let i ← v.integer?
  if fitsSigned 64 i then some i else none

/-- The snapshot that members describe. -/
def Snapshot.ofMembers? (members : List (Text × Value)) : Option Snapshot := do
  return {
    name := ← (← onlyMember? members "name").text?
    commit := ← (← onlyMember? members "commit_hash").text?
    date := ← (← onlyMember? members "date").signed?
    description := ← (← onlyMember? members "description").text? }

/-- The markup counts that members describe. -/
def MarkupCounts.ofMembers? (members : List (Text × Value)) : Option MarkupCounts := do
  let count (name : String) : Option Nat := do (← onlyMember? members name).natural?
  let table (name : String) : Option (Frequency Text) := do
    Frequency.ofValue? Value.text? (← onlyMember? members name)
  return {
    parts := ← count "part_count"
    chapters := ← count "chapter_count"
    sections := ← count "section_count"
    subsections := ← count "subsection_count"
    subsubsections := ← count "subsubsection_count"
    pageReferences := ← count "page_cross_ref_count"
    otherReferences := ← count "other_cross_ref_count"
    figures := ← count "figure_count"
    subfigures := ← count "subfigure_count"
    displayEquations := ← count "display_equation_count"
    equationEnvironments := ← count "equation_environment_count"
    equations := ← count "equation_count"
    inlineEquations := ← count "inline_equation_count"
    dollarEquations := ← count "dollar_equation_count"
    subequations := ← count "subequation_count"
    listings := ← count "listing_count"
    tables := ← count "table_count"
    includedGraphics := ← count "includegraphics_count"
    inputListings := ← count "inputminted_count"
    citations := ← count "citation_count"
    indexEntries := ← count "index_count"
    footnotes := ← count "footnote_count"
    subfiguresPerFigure :=
      ← Frequency.ofValue? Value.natural? (← onlyMember? members "subfigures_per_figure")
    commands := ← table "command_frequency"
    environments := ← table "environment_frequency"
    citationGroups := ← (← onlyMember? members "citation_keys_used").texts? }

/-- The word counts that members describe. -/
def WordCounts.ofMembers? (members : List (Text × Value)) : Option WordCounts := do
  let count (name : String) : Option Nat := do (← onlyMember? members name).natural?
  let table (name : String) : Option (Frequency Text) := do
    Frequency.ofValue? Value.text? (← onlyMember? members name)
  return {
    words := ← count "word_count"
    distinctWords := ← count "unique_word_count"
    stems := ← count "stem_count"
    distinctStems := ← count "unique_stem_count"
    wordFrequency := ← table "word_frequency"
    filteredWordFrequency := ← table "filtered_word_frequency"
    stemFrequency := ← table "stem_frequency"
    filteredStemFrequency := ← table "filtered_stem_frequency" }

namespace Record

/-- The record that general members and a list of corrections describe. -/
def ofMembers? (members : List (Text × Value)) (corrections : List Text) : Option Record := do
  return {
    snapshot := ← Snapshot.ofMembers? members
    markup := ← MarkupCounts.ofMembers? members
    words := ← WordCounts.ofMembers? members
    corrections := corrections }

/-- Reads a record. -/
def read (t : Text) : Except Json.Fault Record := do
  let members ← (Json.Reader.members correctionsName).run .start (Json.Token.ofText t)
  let (members, rest) := members
  match ofMembers? members.general (members.texts.getD []) with
  | none => throw .mistyped
  | some r => if rest.isEmpty then return r else throw .malformed

end Record

end TexCensus
