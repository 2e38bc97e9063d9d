import TexCensus.Record.Corrections
import TexCensus.Settings.Source

/-!
# Analyses

An analysis makes records out of texts. Its parts are fixed at the start, so that whatever can be
wrong with the settings is found before the first text; after that only a text that is no text can
fail.

Markup is counted in the text without comments, words in the cleaned text.
-/

namespace TexCensus

/-! ## Setting up -/

/-- The stopwords of the settings: those of a file if one is named, else the built-in ones. -/
def Stopwords.ofSettings (files : Files) (s : Settings) : Except SetupError Stopwords :=
  match s.stopwordsPath with
  | none => builtIn s.language
  | some path =>
    match files.readText path with
    | .error fault => .error (.missingStopwords path fault)
    | .ok t => ofText t

/-- The word counter of the settings. -/
def WordCounter.ofSettings (files : Files) (s : Settings) : Except SetupError WordCounter := do
  let stopwords ← Stopwords.ofSettings files s
  let stemmer ← Stemmer.ofKind s.stemmer s.language
  return { filter := s.tokenFilter, stopwords, stemmer }

/-- What turns a text into a record. -/
structure Analysis where
  /-- How the text is cleaned. -/
  cleaner : Cleaner
  /-- How its words are counted. -/
  counter : WordCounter
  /-- How the counts are corrected. -/
  corrections : List Correction

/-- Why a text gives no record: its bytes are not UTF-8. -/
structure EncodingError where
  /-- The name of the document. -/
  name : Text
  /-- What is wrong with the bytes. -/
  fault : Utf8.Fault
deriving DecidableEq, Repr

/-- The error in words. -/
def EncodingError.message (e : EncodingError) : Text :=
  "Snapshot '".toList ++ e.name ++ "' is not valid UTF-8: ".toList ++ e.fault.message

namespace Analysis

/-- The analysis of the settings. -/
def ofSettings (files : Files) (s : Settings) : Except SetupError Analysis := do
  checkCorrections s.corrections
  let counter ← WordCounter.ofSettings files s
  return { cleaner := s.cleaner, counter, corrections := s.corrections }

/-! ## Making records -/

/-- The words of a text. -/
def words (a : Analysis) (source : Text) : List Text :=
  a.counter.words (a.cleaner.clean (stripComments source))

/-- The record of a text before any correction. -/
def uncorrected (a : Analysis) (snapshot : Snapshot) (source : Text) : Record where
  snapshot := snapshot
  markup := Markup.counts (stripComments source)
  words := a.counter.count (a.words source)

/-- The record of a text. -/
def record (a : Analysis) (snapshot : Snapshot) (source : Text) : Record :=
  (a.uncorrected snapshot source).correct (a.words source) a.corrections

/-- The record of a text in UTF-8. -/
def recordOfBytes (a : Analysis) (snapshot : Snapshot) (source : Bytes) :
    Except EncodingError Record :=
  match Utf8.decode source with
  | .ok t => .ok (a.record snapshot t)
  | .error fault => .error { name := snapshot.name, fault }

/-- The passes that clean a text, each with the text after it. -/
def trace (a : Analysis) (source : Text) : List (CleaningPass × Text) :=
  a.cleaner.trace (stripComments source)

end Analysis

end TexCensus
