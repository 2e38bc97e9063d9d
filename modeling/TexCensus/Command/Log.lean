import TexCensus.Record.Basic

/-!
# Log lines

What a run says about its progress. Sizes are in units of 1024 with two places, a half going to the
even neighbour; counts of words have an underscore before every third digit from the right.
-/

namespace TexCensus.Command

/-- The units of sizes above one byte, each 1024 times the one before. -/
def sizeUnits : List String :=
  ["KiB", "MiB", "GiB"]

/-- A fraction rounded to the nearest natural number, a half to the even neighbour. -/
def roundedQuotient (n d : Nat) : Nat :=
  let quotient := n / d
  let twice := 2 * (n % d)
  if twice > d || (twice = d && quotient % 2 = 1) then quotient + 1 else quotient

/-- A number of hundredths with a point before the last two digits. -/
def hundredths (n : Nat) : Text :=
  decimal (n / 100) ++ '.' :: decimal (n % 100 / 10) ++ decimal (n % 10)

/-- A size in the first unit of a list that leaves less than 1024, or in the last one; `unit` bytes
make one of the first. -/
def sizeIn (bytes unit : Nat) : List String → Text
  | [] => decimal bytes ++ " B".toList
  | name :: larger =>
    if larger.isEmpty || bytes < 1024 * unit then
      hundredths (roundedQuotient (bytes * 100) unit) ++ ' ' :: name.toList
    else sizeIn bytes (1024 * unit) larger

/-- A number of bytes. -/
def sizeText (bytes : Nat) : Text :=
  if bytes < 1024 then decimal bytes ++ " B".toList else sizeIn bytes 1024 sizeUnits

/-- Puts an underscore before every third character from the right, not at the front. -/
def groupedDigits (digits : Text) : Text :=
  (digits.zipIdx.flatMap fun (c, i) =>
    if 0 < i && (digits.length - i) % 3 = 0 then ['_', c] else [c])

/-- A count with grouped digits. -/
def countText (n : Nat) : Text :=
  groupedDigits (decimal n)

/-- The name under which the command speaks. -/
def commandName : Text :=
  "texstat".toList

/-- A line with its level, its message and its fields. -/
def logLine (level message : String) (fields : List (String × Text)) : Text :=
  level.toList ++ ' ' :: commandName ++ ": ".toList ++ message.toList
    ++ fields.flatMap fun (name, shown) => ' ' :: name.toList ++ '=' :: shown

/-- Says how many sources there are and how large they are together. -/
def loadedLine (count bytes : Nat) : Text :=
  logLine "INFO" "loaded sources" [("files", decimal count), ("size", sizeText bytes)]

/-- Says where the trace is. -/
def tracedLine (path : Text) : Text :=
  logLine "INFO" "wrote cleaning trace" [("path", path)]

/-- Says that a source gives no record. -/
def skippedLine (reason : Text) : Text :=
  logLine "WARN" "skipping snapshot" [("error", reason)]

/-- Says the main numbers of a record. -/
def recordLine (r : Record) : Text :=
  logLine "INFO" "record built" [
    ("snapshot", r.snapshot.name),
    ("words", countText r.words.words),
    ("unique", countText r.words.distinctWords),
    ("sections", decimal r.markup.sections),
    ("figures", decimal r.markup.figures)]

/-- Says how many records there are. -/
def finishedLine (records : Nat) : Text :=
  logLine "INFO" "analysis finished" [("records", decimal records)]

end TexCensus.Command
