import TexCensus.Report.Basic

/-!
# Tables of comma-separated values

A line holds fields between commas and ends with a line feed. A field that holds a comma, a quote
or the end of a line stands between quotes, and a quote inside it is written twice.
-/

namespace TexCensus.Report.Csv

/-- Whether a character makes its field stand between quotes. -/
def needsQuotes (c : Char) : Bool :=
  c == ',' || c == '"' || c == '\r' || c == '\n'

/-- A character between quotes. -/
def quotedChar (c : Char) : Text :=
  if c = '"' then ['"', '"'] else [c]

/-- A field. -/
def field (t : Text) : Text :=
  if t.any needsQuotes then '"' :: t.flatMap quotedChar ++ ['"'] else t

/-- A line of fields. -/
def line (fields : List Text) : Text :=
  joinWith [','] (fields.map field) ++ ['\n']

/-- The line of a record, with `n` keys in each ranked view. -/
def recordLine? (n : Nat) (r : Record) : Option Text :=
  (values? n r).map line

/-- A table of records under a line with the names of the columns. -/
def table? (n : Nat) (records : List Record) : Option Text := do
  return line columns ++ (← records.mapM (recordLine? n)).flatten

end TexCensus.Report.Csv
