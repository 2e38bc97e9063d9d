import TexCensus.Data.Value

/-!
# TOML documents

A document grows line by line. Which tables may still grow depends on how they came to be: a table
with a header of its own is made once, one that a longer header only passes through may get its
header later, and one that dotted keys made may be extended by dotted keys and by headers below it.
Arrays and inline tables are complete where they stand, so they are plain values.
-/

namespace TexCensus.Toml

/-- How a table came to be. -/
inductive Origin where
  /-- By a header of its own. -/
  | header
  /-- By a longer header that passes through it. -/
  | passed
  /-- By a dotted key that passes through it. -/
  | dotted
deriving DecidableEq, Repr

/-- What stands under a key. -/
inductive Entry where
  /-- A value that is complete. -/
  | value (v : Value)
  /-- A table. -/
  | table (origin : Origin) (members : List (Text × Entry))
  /-- An array of tables with headers, of which the last can grow. -/
  | tables (items : List (List (Text × Entry)))

/-- The members of a table in the order of their first mention. -/
abbrev Members := List (Text × Entry)

mutual

/-- The value of an entry. -/
def Entry.toValue : Entry → Value
  | .value v => v
  | .table _ members => .object (membersValues members)
  | .tables items => .array (tablesValues items)

/-- The values of the members of a table. -/
def membersValues : List (Text × Entry) → List (Text × Value)
  | [] => []
  | (key, entry) :: rest => (key, entry.toValue) :: membersValues rest

/-- The values of tables. -/
def tablesValues : List (List (Text × Entry)) → List Value
  | [] => []
  | members :: rest => .object (membersValues members) :: tablesValues rest

end

namespace Members

/-- Puts an entry under a key, in the place of an older one of that key. -/
def set (key : Text) (entry : Entry) : Members → Members
  | [] => [(key, entry)]
  | member :: rest => if member.1 = key then (key, entry) :: rest else member :: set key entry rest

/-- Changes the table at the end of a path by `change`, which learns how the table came to be.
Tables that are missing on the way are made. A dotted key does not pass through a table that has a
header; nothing passes through a complete value. -/
def descend (dotted : Bool) (change : Origin → Members → Option Members) :
    List Text → Origin → Members → Option Members
  | [], origin, members => change origin members
  | key :: path, _, members => do
    match List.lookup key members with
    | none =>
      let origin := if dotted then .dotted else .passed
      return members.set key (.table origin (← descend dotted change path origin []))
    | some (.table origin inner) =>
      if dotted && origin = .header then none
      else return members.set key (.table origin (← descend dotted change path origin inner))
    | some (.tables items) =>
      let last ← descend dotted change path .header (← items.getLast?)
      return members.set key (.tables (items.dropLast ++ [last]))
    | some (.value _) => none

/-- Changes the table to which all but the last part of a key lead, given that last part. -/
def descendTo (dotted : Bool) (key : List Text)
    (change : Text → Origin → Members → Option Members) (origin : Origin) (members : Members) :
    Option Members := do
  descend dotted (change (← key.getLast?)) key.dropLast origin members

/-- Gives a new key its value. A dotted key has to lead to a table that dotted keys made. -/
def assign (key : List Text) (v : Value) : Origin → Members → Option Members :=
  descendTo true key fun name origin members =>
    -- A key of one part gives its value to the table of the line, which no dotted key made; a
    -- longer key gives it to a table that this key or one before it made.
    if (origin == .dotted) == (key.length == 1) || (List.lookup name members).isSome then none
    else some (members ++ [(name, .value v)])

/-- Makes the table of a header. -/
def declareTable (path : List Text) (members : Members) : Option Members :=
  descendTo false path (fun name _ members =>
    match List.lookup name members with
    | none => some (members ++ [(name, .table .header [])])
    | some (.table .passed inner) => some (members.set name (.table .header inner))
    | some _ => none) .header members

/-- Makes the table of a header of an array of tables. -/
def declareItem (path : List Text) (members : Members) : Option Members :=
  descendTo false path (fun name _ members =>
    match List.lookup name members with
    | none => some (members ++ [(name, .tables [[]])])
    | some (.tables items) => some (members.set name (.tables (items ++ [[]])))
    | some _ => none) .header members

end Members

end TexCensus.Toml
