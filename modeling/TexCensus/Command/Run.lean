import TexCensus.Analysis
import TexCensus.Command.Log
import TexCensus.Command.Options
import TexCensus.Command.Sources
import TexCensus.Record.Document
import TexCensus.Report.Csv

/-!
# Running the command

A run reads the settings, sets up the analysis, loads the sources, makes a record of all of them
together and, if asked to, one of each, and writes the records. It is a function from the files
before it to an outcome, which holds the files after it.

Nothing is written before everything that can go wrong with the input is known, except the trace,
which is written as soon as the text of all sources is known.
-/

namespace TexCensus.Command

/-! ## Failures -/

/-- Why a run fails. -/
inductive RunError where
  /-- The settings could not be loaded. -/
  | settings (path : Path) (cause : SetupError)
  /-- The analysis could not be set up. -/
  | setup (cause : SetupError)
  /-- The sources could not be loaded. -/
  | load (input : Path) (cause : LoadFault)
  /-- The input holds no source. -/
  | noSources (path : Path)
  /-- The sources together are not UTF-8, so that they cannot be traced. -/
  | combinedEncoding (cause : Utf8.Fault)
  /-- The file for the trace cannot be created. -/
  | trace (path : Path)
  /-- The sources together are not UTF-8. -/
  | encoding (cause : EncodingError)
  /-- The file for the output cannot be created. -/
  | output (path : Path)
deriving DecidableEq, Repr

/-- The failure in words. -/
def RunError.message : RunError → Text
  | settings path _ => "Failed to load config: ".toList ++ path
  | setup _ => "Failed to set up analysis".toList
  | load input (.walk _) => "Failed to walk ".toList ++ input
  | load _ (.read path _) => "Failed to read ".toList ++ path
  | noSources path => "No .tex files found under ".toList ++ path
  | combinedEncoding _ => "Combined sources are not valid UTF-8".toList
  | trace path => "Failed to create trace file: ".toList ++ path
  | encoding cause => cause.message
  | output path => "Failed to create output file: ".toList ++ path

/-! ## Outcomes -/

/-- How a run ends. -/
inductive Ending where
  /-- All records are written. -/
  | finished
  /-- A record could not be shown; what was written before it stays. -/
  | brokenOff
  /-- The run failed before any record was written. -/
  | failed (cause : RunError)
deriving DecidableEq, Repr

/-- The code with which the command exits. -/
def Ending.exitCode : Ending → Nat
  | finished => 0
  | failed _ => 1
  | brokenOff => 101

/-- What a run leaves behind. -/
structure Outcome where
  /-- How it ended. -/
  ending : Ending
  /-- What it wrote for its caller. -/
  stdout : Text
  /-- What it said about its progress. -/
  log : List Text
  /-- The files after it. -/
  files : Files

/-! ## Traces -/

/-- How long the lines around a title are. -/
def traceWidth : Nat :=
  80

/-- A title in the middle of a line; if it cannot be in the middle, it stands further left. -/
def centred (title : Text) : Text :=
  let free := traceWidth - title.length
  List.replicate (free / 2) ' ' ++ title ++ List.replicate (free - free / 2) ' '

/-- A text under a title. -/
def traceSection (title t : Text) : Text :=
  let rule := List.replicate traceWidth '-' ++ ['\n']
  rule ++ centred title ++ ['\n'] ++ rule ++ t ++ ['\n']

/-- A source before and after its comments are gone and after every pass. -/
def traceText (a : Analysis) (source : Text) : Text :=
  traceSection "original".toList source
    ++ traceSection "without comments".toList (stripComments source)
    ++ (a.trace source).flatMap fun (pass, t) => traceSection pass.name t

/-! ## Steps of a run -/

/-- What a run works with. -/
structure Task where
  /-- How many keys ranked views show. -/
  rankedLength : Nat
  /-- The analysis. -/
  analysis : Analysis
  /-- The sources. -/
  sources : List Source

/-- Finds out what there is to do. -/
def prepare (files : Files) (o : Options) : Except RunError Task := do
  let settings ← match o.config with
    | none => pure {}
    | some path => (Settings.load files path).mapError (.settings path)
  let analysis ← (Analysis.ofSettings files settings).mapError .setup
  let sources ← (sourcesAt files o.input).mapError (.load o.input)
  if sources.isEmpty then throw (.noSources o.input)
  return { rankedLength := o.top.getD settings.rankedLength, analysis, sources }

/-- The snapshot of a document of a given name. -/
def Options.snapshot (o : Options) (name : Text) : Snapshot where
  name := name
  commit := o.commit
  date := o.date
  description := o.description

/-- The name of the record of all sources together. -/
def combinedName : Text :=
  "all".toList

/-- Makes the record of all sources together, and traces it if there is a file for that. -/
def recordCombined (files : Files) (o : Options) (task : Task) :
    Except RunError (Record × Files × List Text) := do
  let bytes := combined task.sources
  match o.trace with
  | none =>
    let record ← (task.analysis.recordOfBytes (o.snapshot combinedName) bytes).mapError .encoding
    return (record, files, [])
  | some path =>
    let source ← (Utf8.decode bytes).mapError .combinedEncoding
    match files.create? path (Utf8.encode (traceText task.analysis source)) with
    | none => throw (.trace path)
    | some files =>
      return (task.analysis.record (o.snapshot combinedName) source, files, [tracedLine path])

/-- The records of the sources one by one, or why a source gives none. -/
def recordEach (o : Options) (task : Task) : List (Except EncodingError Record) :=
  task.sources.map fun source =>
    task.analysis.recordOfBytes (o.snapshot source.name) source.bytes

/-- The parts of the output, which are written one after another up to the first one that cannot be
shown. -/
def outputParts (format : Format) (rankedLength : Nat) (records : List Record) :
    List (Option Text) :=
  match format with
  | .text => records.map fun r => (Report.text? rankedLength r).map (· ++ ['\n'])
  | .json => [some (Json.print (.array (records.map Record.toValue)) ++ ['\n'])]
  | .csv =>
    some (Report.Csv.line Report.columns) :: records.map (Report.Csv.recordLine? rankedLength)

/-- The parts before the first one that cannot be shown. -/
def shownParts (parts : List (Option Text)) : Text :=
  ((parts.takeWhile Option.isSome).filterMap id).flatten

/-- How a run ends whose output has the given parts. -/
def endingOf (parts : List (Option Text)) : Ending :=
  if parts.all Option.isSome then .finished else .brokenOff

/-- Writes the output. -/
def writeOutput (files : Files) (log : List Text) (destination : Option Path)
    (parts : List (Option Text)) : Outcome :=
  match destination with
  | none => { ending := endingOf parts, stdout := shownParts parts, log, files }
  | some path =>
    match files.create? path (Utf8.encode (shownParts parts)) with
    | some files => { ending := endingOf parts, stdout := [], log, files }
    | none => { ending := .failed (.output path), stdout := [], log, files }

/-- The records among the results and the lines that say what was left out. -/
def keepRecords (results : List (Except EncodingError Record)) : List Record × List Text :=
  (results.filterMap Except.toOption, results.filterMap fun
    | .ok _ => none
    | .error e => some (skippedLine e.message))

/-! ## Runs -/

/-- Runs the command. -/
def run (files : Files) (o : Options) : Outcome :=
  match prepare files o with
  | .error cause => { ending := .failed cause, stdout := [], log := [], files }
  | .ok task =>
    -- From here on the run has something to say about its progress.
    let loaded := [loadedLine task.sources.length (byteCount task.sources)]
    match recordCombined files o task with
    | .error cause => { ending := .failed cause, stdout := [], log := loaded, files }
    | .ok (record, files, traced) =>
      let (others, skipped) := if o.perFile then keepRecords (recordEach o task) else ([], [])
      let records := record :: others
      let log := loaded ++ traced ++ skipped ++ records.map recordLine
        ++ [finishedLine records.length]
      writeOutput files log o.output (outputParts o.format task.rankedLength records)

end TexCensus.Command
