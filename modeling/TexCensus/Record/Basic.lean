import TexCensus.Markup.Counts
import TexCensus.Words.Counts

/-!
# Records

A record holds everything that is known about one state of one document: which state it is, what
was counted in its markup, what was counted in its words, and which corrections changed those
counts.
-/

namespace TexCensus

/-- One state of one document. -/
structure Snapshot where
  /-- The name of the document. -/
  name : Text := []
  /-- The revision. -/
  commit : Text := []
  /-- The time of the revision in seconds since the beginning of 1970; zero if it is unknown. -/
  date : Int := 0
  /-- What changed. -/
  description : Text := []
deriving DecidableEq, Repr, Inhabited

/-- What is known about a snapshot. -/
structure Record where
  /-- Which snapshot it is. -/
  snapshot : Snapshot := {}
  /-- What was counted in its markup. -/
  markup : MarkupCounts := {}
  /-- What was counted in its words. -/
  words : WordCounts := {}
  /-- The corrections that changed counts, in words. -/
  corrections : List Text := []
deriving DecidableEq

end TexCensus
