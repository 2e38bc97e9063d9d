import TexCensus.Data.Value

/-!
# Printing JSON

The layout gives every member and every item a line of its own, indented by two blanks for each
container around it; an empty container takes no lines. In texts only quotes, backslashes and
control characters are escaped, the common ones by a letter and the others by four hexadecimal
digits in lower case.
-/

namespace TexCensus.Json

/-- A character inside quotes. -/
def escapedChar (c : Char) : Text :=
  if c = '"' then ['\\', '"']
  else if c = '\\' then ['\\', '\\']
  else if c = '\x08' then ['\\', 'b']
  else if c = '\x0c' then ['\\', 'f']
  else if c = '\n' then ['\\', 'n']
  else if c = '\r' then ['\\', 'r']
  else if c = '\t' then ['\\', 't']
  else if c < ' ' then
    ['\\', 'u', '0', '0', Nat.digitChar (c.toNat / 16), Nat.digitChar (c.toNat % 16)]
  else [c]

/-- A text in quotes. -/
def quoted (t : Text) : Text :=
  '"' :: t.flatMap escapedChar ++ ['"']

/-- A line feed and the indentation of a line inside `depth` containers. -/
def newLine (depth : Nat) : Text :=
  '\n' :: List.replicate (2 * depth) ' '

/-- The lines of a container between its brackets, or nothing if there are none. -/
def block (depth : Nat) (parts : List Text) : Text :=
  if parts.isEmpty then []
  else newLine (depth + 1) ++ joinWith (',' :: newLine (depth + 1)) parts ++ newLine depth

/-- A value inside `depth` containers. -/
def printAt (depth : Nat) (v : Value) : Text :=
  match v with
  | .null => "null".toList
  | .bool true => "true".toList
  | .bool false => "false".toList
  | .integer i => decimalInt i
  | .other spelling => spelling
  | .text t => quoted t
  | .array items => ['['] ++ block depth (items.map fun v => printAt (depth + 1) v) ++ [']']
  | .object members =>
    ['\x7b'] ++ block depth (members.map fun member =>
      quoted member.1 ++ [':', ' '] ++ printAt (depth + 1) member.2) ++ ['\x7d']
termination_by v
decreasing_by
  · have := List.sizeOf_lt_of_mem ‹v ∈ items›
    simp; omega
  · have := List.sizeOf_lt_of_mem ‹member ∈ members›
    cases member
    simp at this ⊢; omega

/-- A value on lines. -/
def print (v : Value) : Text :=
  printAt 0 v

end TexCensus.Json
