import TexCensus.Json.Reader

/-!
# Objects with a list of texts

A reader of an object that has one member of a known kind, an array of texts. That member is
checked while it is read and may stand there once; all others are taken as they are. So a fault in
the known member is found before any fault behind it.
-/

namespace TexCensus.Json

/-- The members of an object that are read, the general ones in reverse. -/
structure Members where
  /-- The members that are taken as they are. -/
  general : List (Text × Value) := []
  /-- The texts of the known member, if it is there. -/
  texts : Option (List Text) := none

/-- What has to come next in an object. -/
inductive MemberExpectation where
  /-- The object. -/
  | object
  /-- A key or the end of an object that has no members so far. -/
  | keyOrEnd
  /-- A key. -/
  | key
  /-- The colon behind the key of a general member. -/
  | colon (key : Text)
  /-- The colon behind the key of the known member. -/
  | colonOfTexts
  /-- More of the value of a general member. -/
  | value (key : Text) (place : Place)
  /-- More of the texts. -/
  | texts (place : TextsPlace)
  /-- A comma or the end of the object. -/
  | more

/-- A state of reading an object. -/
structure MembersPlace where
  /-- The members so far. -/
  read : Members
  /-- What comes next. -/
  next : MemberExpectation

namespace MembersPlace

/-- The place at the beginning of an object. -/
def start : MembersPlace :=
  ⟨{}, .object⟩

/-- The members in their order. -/
def finish (read : Members) : Members :=
  { read with general := read.general.reverse }

/-- Takes a key, given the name of the known member. -/
def takeKey (name : Text) (read : Members) : Token → Except Fault (MembersPlace ⊕ Members)
  | .scalar (.text key) =>
    if key ≠ name then .ok (.inl ⟨read, .colon key⟩)
    else if read.texts.isSome then .error .mistyped
    else .ok (.inl ⟨read, .colonOfTexts⟩)
  | .broken true fault => .error fault
  | _ => .error .malformed

/-- Takes one token, given the name of the known member. -/
def step (name : Text) (p : MembersPlace) (token : Token) :
    Except Fault (MembersPlace ⊕ Members) :=
  match p.next, token with
  | .object, .openBrace => .ok (.inl { p with next := .keyOrEnd })
  | .object, token => .error token.misplaced
  | .keyOrEnd, .closeBrace => .ok (.inr (finish p.read))
  | .keyOrEnd, token => takeKey name p.read token
  | .key, token => takeKey name p.read token
  | .colon key, .colon => .ok (.inl { p with next := .value key (.start 1) })
  | .colon _, _ => .error .malformed
  | .colonOfTexts, .colon => .ok (.inl { p with next := .texts .start })
  | .colonOfTexts, _ => .error .malformed
  | .value key place, token => do
    match ← Reader.value.step place token with
    | .inl place => return .inl { p with next := .value key place }
    | .inr v => return .inl ⟨{ p.read with general := (key, v) :: p.read.general }, .more⟩
  | .texts place, token => do
    match ← Reader.texts.step place token with
    | .inl place => return .inl { p with next := .texts place }
    | .inr texts => return .inl ⟨{ p.read with texts := some texts }, .more⟩
  | .more, .comma => .ok (.inl { p with next := .key })
  | .more, .closeBrace => .ok (.inr (finish p.read))
  | .more, _ => .error .malformed

end MembersPlace

/-- The reader of an object whose member of a given name is an array of texts. -/
def Reader.members (name : Text) : Reader MembersPlace Members :=
  ⟨MembersPlace.step name⟩

end TexCensus.Json
