import TexCensus.Text.Basic

/-!
# Reading tables of comma-separated values

A reader goes through a text character by character. A field that begins with a quote goes on to the
next quote that is not written twice, whatever stands between the two; any other field goes on to the
next comma or to the end of its line. A line feed or a carriage return ends a line, and lines without
a character hold no row.

A reader knows nothing of columns. Every text has rows, though those of a text that no table has
need not make sense.
-/

namespace TexCensus.Report.Csv

/-- Where a reader is in a table. -/
inductive Place where
  /-- At the beginning of a line. -/
  | lineStart
  /-- Behind a comma that ends a field. -/
  | fieldStart
  /-- In a field, outside quotes. -/
  | outside
  /-- Between quotes. -/
  | inside
  /-- Behind a quote that closes the field or is the first of two. -/
  | quoteSeen
deriving DecidableEq, Repr

/-- What a reader knows of a table that it has read in part. -/
structure Reader where
  /-- Where it is. -/
  place : Place := .lineStart
  /-- The field that has begun. -/
  field : Text := []
  /-- The fields before it in its row. -/
  fields : List Text := []
  /-- The rows before that row. -/
  rows : List (List Text) := []
deriving DecidableEq, Repr

/-- Whether a character ends a line. -/
def endsLine (c : Char) : Bool :=
  c == '\n' || c == '\r'

namespace Reader

/-- Puts a character behind the field. -/
def take (r : Reader) (place : Place) (c : Char) : Reader :=
  { r with place, field := r.field ++ [c] }

/-- Ends the field. -/
def endField (r : Reader) : Reader :=
  { r with place := .fieldStart, field := [], fields := r.fields ++ [r.field] }

/-- Ends the field and the row. -/
def endRow (r : Reader) : Reader :=
  { rows := r.rows ++ [r.fields ++ [r.field]] }

/-- Reads a character of a field outside quotes. -/
def readOutside (r : Reader) (c : Char) : Reader :=
  if c = ',' then r.endField else if endsLine c then r.endRow else r.take .outside c

/-- Reads the first character of a field. -/
def readFirst (r : Reader) (c : Char) : Reader :=
  if c = '"' then { r with place := .inside } else r.readOutside c

/-- Reads a character. -/
def step (r : Reader) (c : Char) : Reader :=
  match r.place with
  | .lineStart => if endsLine c then r else r.readFirst c
  | .fieldStart => r.readFirst c
  | .outside => r.readOutside c
  | .inside => if c = '"' then { r with place := .quoteSeen } else r.take .inside c
  | .quoteSeen => if c = '"' then r.take .inside c else r.readOutside c

/-- The rows at the end of a text, which ends the row that has begun. -/
def finish (r : Reader) : List (List Text) :=
  if r.place = .lineStart then r.rows else r.endRow.rows

end Reader

/-- The rows of a text. -/
def read (t : Text) : List (List Text) :=
  (t.foldl Reader.step {}).finish

end TexCensus.Report.Csv
