import TexCensus.Toml.Document
import TexCensus.Toml.Scalar
import TexCensus.Toml.Token

/-!
# Reading TOML

A reader takes tokens one by one. Between values it knows the members so far and the table to which
the next lines belong; inside a value it also knows the arrays and inline tables around the current
place. An unquoted value is complete only when another token follows it.
-/

namespace TexCensus.Toml

/-- What a key belongs to. -/
inductive KeyRole where
  /-- The header of a table. -/
  | header
  /-- The header of a table in an array. -/
  | itemHeader
  /-- A line of the document. -/
  | line
  /-- An inline table, which is the innermost frame. -/
  | inlineTable
deriving DecidableEq, Repr

/-- What stands around a value. -/
inductive Frame where
  /-- A line of the document with its key. -/
  | line (key : List Text)
  /-- An array with its items so far, in reverse. -/
  | array (before : List Value)
  /-- An inline table with its members so far and the key whose value is being read. -/
  | inlineTable (members : Members) (key : List Text)

/-- What has to come next. The parts of a key are in reverse. -/
inductive Expectation where
  /-- A new line. -/
  | line
  /-- The end of a line. -/
  | lineEnd
  /-- A header, directly behind its opening bracket. -/
  | headerKey
  /-- A part of a key. -/
  | keyPart (role : KeyRole) (before : List Text)
  /-- A dot or what ends a key. -/
  | keyMore (role : KeyRole) (parts : List Text)
  /-- The second closing bracket of the header of a table in an array. -/
  | itemHeaderEnd (parts : List Text)
  /-- The equals sign behind a key of an inline table, which may stand on a later line. -/
  | memberEquals (parts : List Text)
  /-- A value. -/
  | value
  /-- A value or the end of an array. -/
  | item
  /-- A comma or the end of an array. -/
  | moreItems
  /-- A key or the end of an inline table. -/
  | member
  /-- A comma or the end of an inline table. -/
  | moreMembers
  /-- More of an unquoted value. -/
  | scalar (sofar : Text)
  /-- A time of day, or what ends a value that is a date. -/
  | timeOfDay (date : Text)

/-- A state of reading a document. -/
structure Place where
  /-- The members of the document so far. -/
  root : Members := []
  /-- The path of the table to which lines belong. -/
  table : List Text := []
  /-- What stands around the current place, innermost first. -/
  around : List Frame := []
  /-- What comes next. -/
  next : Expectation := .line

/-- How many arrays and inline tables may stand in one another, and how many parts a key may
have. -/
def maxDepth : Nat :=
  80

/-- Whether a bare run is a part of a key. -/
def isBareKey (t : Text) : Bool :=
  t.all fun c => c.isAlphanum || c == '_' || c == '-'

namespace Place

/-- Goes on behind a complete value. -/
def deliver (p : Place) (v : Value) : Option Place :=
  match p.around with
  | [] => none
  | .line key :: _ => do
    let root ← Members.descend false (Members.assign key v) p.table .header p.root
    return { p with root, around := [], next := .lineEnd }
  | .array before :: around =>
    some { p with around := .array (v :: before) :: around, next := .moreItems }
  | .inlineTable members key :: around => do
    let members ← Members.assign key v .header members
    return { p with around := .inlineTable members [] :: around, next := .moreMembers }

/-- Ends the innermost array or inline table. -/
def close (p : Place) (bracket : Token) : Option Place :=
  match p.around, bracket with
  | .array before :: around, .closeBracket => { p with around }.deliver (.array before.reverse)
  | .inlineTable members _ :: around, .closeBrace =>
    { p with around }.deliver (.object (membersValues members))
  | _, _ => none

/-- Whether the innermost frame is an inline table, in which a line may end between any two tokens
but those of a key. -/
def isInInlineTable (p : Place) : Bool :=
  match p.around with
  | .inlineTable .. :: _ => true
  | _ => false

/-- Enters an array or an inline table unless too many are open. -/
def enter (p : Place) (frame : Frame) (next : Expectation) : Option Place :=
  if p.around.length ≤ maxDepth then some { p with around := frame :: p.around, next } else none

/-- Takes the first token of a value. -/
def beginValue (p : Place) : Token → Option Place
  | .openBracket => p.enter (.array []) .item
  | .openBrace => p.enter (.inlineTable [] []) .member
  | .bare t => some { p with next := .scalar t }
  | .quoted t _ => p.deliver (.text t)
  | _ => none

/-- Takes a part of a key. -/
def takePart (p : Place) (role : KeyRole) (before : List Text) : Token → Option Place
  | .blank _ => some { p with next := .keyPart role before }
  | .bare t => if isBareKey t then some { p with next := .keyMore role (t :: before) } else none
  | .quoted t false => some { p with next := .keyMore role (t :: before) }
  | _ => none

/-- Takes what ends a key, which may not be too long. -/
def endKey (p : Place) (role : KeyRole) (parts : List Text) (token : Token) : Option Place :=
  if maxDepth < parts.length then none
  else match role, token with
  | .header, .closeBracket => do
    let root ← Members.declareTable parts.reverse p.root
    return { p with root, table := parts.reverse, next := .lineEnd }
  | .itemHeader, .closeBracket => some { p with next := .itemHeaderEnd parts }
  | .line, .equals => some { p with around := [.line parts.reverse], next := .value }
  | .inlineTable, .equals =>
    match p.around with
    | .inlineTable members _ :: around =>
      some { p with around := .inlineTable members parts.reverse :: around, next := .value }
    | _ => none
  | .inlineTable, .lineEnd => some { p with next := .memberEquals parts }
  | _, _ => none

/-- Takes a token behind a complete value. -/
def behindValue (p : Place) (token : Token) : Option Place :=
  match p.next, token with
  | _, .blank _ => some p
  | .lineEnd, .lineEnd => some { p with next := .line }
  | .moreItems, .lineEnd => some p
  | .moreItems, .comma => some { p with next := .item }
  | .moreItems, token => p.close token
  | .moreMembers, .lineEnd => some p
  | .moreMembers, .comma => some { p with next := .member }
  | .moreMembers, token => p.close token
  | _, _ => none

/-- Takes the token behind an unquoted value. -/
def endScalar (p : Place) (written : Text) (token : Token) : Option Place := do
  (← p.deliver (← scalar? written)).behindValue token

/-- Takes one token. -/
def step (p : Place) (token : Token) : Option Place :=
  match p.next, token with
  | .line, .blank _ => some p
  | .line, .lineEnd => some p
  | .line, .openBracket => some { p with next := .headerKey }
  | .line, token => p.takePart .line [] token
  | .headerKey, .openBracket => some { p with next := .keyPart .itemHeader [] }
  | .headerKey, token => p.takePart .header [] token
  | .keyPart role before, token => p.takePart role before token
  | .keyMore _ _, .blank _ => some p
  | .keyMore role parts, .dot => some { p with next := .keyPart role parts }
  | .keyMore role parts, token => p.endKey role parts token
  | .itemHeaderEnd parts, .closeBracket => do
    let root ← Members.declareItem parts.reverse p.root
    return { p with root, table := parts.reverse, next := .lineEnd }
  | .itemHeaderEnd _, _ => none
  | .memberEquals _, .blank _ => some p
  | .memberEquals _, .lineEnd => some p
  | .memberEquals parts, .equals => p.endKey .inlineTable parts .equals
  | .memberEquals _, _ => none
  | .value, .blank _ => some p
  | .value, .lineEnd => if p.isInInlineTable then some p else none
  | .value, token => p.beginValue token
  | .item, .blank _ => some p
  | .item, .lineEnd => some p
  | .item, .closeBracket => p.close .closeBracket
  | .item, token => p.beginValue token
  | .member, .blank _ => some p
  | .member, .lineEnd => some p
  | .member, .closeBrace => p.close .closeBrace
  | .member, token => p.takePart .inlineTable [] token
  | .scalar sofar, .bare t => some { p with next := .scalar (sofar ++ t) }
  | .scalar sofar, .dot => some { p with next := .scalar (sofar ++ ['.']) }
  | .scalar sofar, .blank [' '] =>
    if isDate sofar then some { p with next := .timeOfDay sofar }
    else p.endScalar sofar (.blank [' '])
  | .scalar sofar, token => p.endScalar sofar token
  | .timeOfDay date, .bare t => some { p with next := .scalar (date ++ ' ' :: t) }
  | .timeOfDay date, token => p.endScalar date token
  | .lineEnd, token => p.behindValue token
  | .moreItems, token => p.behindValue token
  | .moreMembers, token => p.behindValue token

end Place

/-- Reads a document as the members of its outermost table. -/
def read? (t : Text) : Option (List (Text × Value)) := do
  let tokens ← Token.ofText? t
  let last ← (tokens ++ [Token.lineEnd]).foldlM Place.step {}
  match last.next with
  | .line => some (membersValues last.root)
  | _ => none

end TexCensus.Toml
