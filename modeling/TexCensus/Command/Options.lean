import TexCensus.Command.Arguments
import TexCensus.Data.Bits
import TexCensus.Files.Path

/-!
# Options

What the command can be told. Options arrive as texts. One whose text has the wrong form makes the
whole call senseless, and so does a missing input.
-/

namespace TexCensus.Command

/-- How records are written. -/
inductive Format where
  /-- As reports. -/
  | text
  /-- As one array of JSON objects. -/
  | json
  /-- As one table of comma-separated values. -/
  | csv
deriving DecidableEq, Repr

/-- The options of a call. -/
structure Options where
  /-- A file, or a folder with files. -/
  input : Path
  /-- A file of settings. -/
  config : Option Path := none
  /-- The format of the output. -/
  format : Format := .text
  /-- A file for the output. -/
  output : Option Path := none
  /-- Whether each file has a record of its own, too. -/
  perFile : Bool := false
  /-- The revision. -/
  commit : Text := []
  /-- The time of the revision in seconds. -/
  date : Int := 0
  /-- What changed. -/
  description : Text := []
  /-- How many keys ranked views show, if the settings do not decide it. -/
  top : Option Nat := none
  /-- A file for the text after each pass. -/
  trace : Option Path := none
deriving DecidableEq, Repr

/-! ## Forms of texts -/

/-- A path, which is not empty. -/
def path? (t : Text) : Option Path :=
  if t.isEmpty then none else some t

/-- The format of a given name. -/
def Format.ofName? (t : Text) : Option Format :=
  if t = "text".toList then some .text
  else if t = "json".toList then some .json
  else if t = "csv".toList then some .csv
  else none

/-- An unsigned integer of 64 bits, which may have a plus sign. -/
def unsigned? (t : Text) : Option Nat := do
  let n ← decimalValue? ((dropStart? ['+'] t).getD t)
  if fitsUnsigned 64 n then some n else none

/-- A signed integer of 64 bits, which may have a plus sign. -/
def signed? (t : Text) : Option Int :=
  match t with
  | '-' :: digits => do
    let n ← decimalValue? digits
    if fitsSigned 64 (-n) then some (-n) else none
  | t => do
    let n ← decimalValue? ((dropStart? ['+'] t).getD t)
    if fitsSigned 64 n then some n else none

/-- An option that may be missing but needs the right form if it is there. -/
def given? {α : Type} (read : Text → Option α) (argument : Option Text) : Option (Option α) :=
  argument.elim (some none) fun t => (read t).map some

/-- The options that arguments give, or `none` if one has the wrong form. -/
def Arguments.options? (a : Arguments) : Option Options := do
  return {
    input := ← path? (← a.input)
    config := ← given? path? a.config
    format := (← given? Format.ofName? a.format).getD .text
    output := ← given? path? a.output
    perFile := a.perFile
    commit := a.commit.getD []
    date := (← given? signed? a.date).getD 0
    description := a.description.getD []
    top := ← given? unsigned? a.top
    trace := ← given? path? a.trace }

end TexCensus.Command
