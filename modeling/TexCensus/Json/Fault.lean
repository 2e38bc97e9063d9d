/-!
# Faults of JSON texts
-/

namespace TexCensus.Json

/-- Why a text could not be read. -/
inductive Fault where
  /-- The text is no JSON. -/
  | malformed
  /-- A value of the wrong kind, out of range, repeated or missing. -/
  | mistyped
  /-- The text ends too early. -/
  | cutShort
deriving DecidableEq, Repr

end TexCensus.Json
