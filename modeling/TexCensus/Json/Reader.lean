import TexCensus.Json.Token

/-!
# Reading JSON

A reader takes tokens one by one and ends with the token that completes what it reads. Because the
first token that does not fit decides, readers of different shapes can find different faults in one
text: a general reader stops only where the text is no JSON, a reader of texts also at the first
value that is none.
-/

namespace TexCensus.Json

/-- A machine that reads one thing: from a state and a token to another state or to the result. -/
structure Reader (State Result : Type) where
  /-- What a token does to a state. -/
  step : State → Token → Except Fault (State ⊕ Result)

namespace Reader

variable {State Result : Type}

/-- Reads from a state on. The answer holds the tokens that are left. -/
def run (r : Reader State Result) (s : State) : List Token → Except Fault (Result × List Token)
  | [] => .error .cutShort
  | token :: rest =>
    match r.step s token with
    | .error fault => .error fault
    | .ok (.inl s) => r.run s rest
    | .ok (.inr result) => .ok (result, rest)

/-- Reads a whole text, in which nothing may follow the result. -/
def runText (r : Reader State Result) (s : State) (t : Text) : Except Fault Result := do
  let (result, rest) ← r.run s (Token.ofText t)
  if rest.isEmpty then return result else throw .malformed

end Reader

/-! ## Values -/

/-- A container whose reading has begun, with the part before the value that is read inside it, in
reverse. -/
inductive Frame where
  | array (before : List Value)
  | object (before : List (Text × Value)) (key : Text)

/-- What has to come next in a value. The members and items that are read are in reverse. -/
inductive Expectation where
  /-- A value. -/
  | value
  /-- A value or the end of an array that has no items so far. -/
  | itemOrEnd
  /-- A comma or the end of an array. -/
  | moreItems (before : List Value)
  /-- A key or the end of an object that has no members so far. -/
  | keyOrEnd
  /-- A key. -/
  | key (before : List (Text × Value))
  /-- The colon behind a key. -/
  | colon (before : List (Text × Value)) (key : Text)
  /-- A comma or the end of an object. -/
  | moreMembers (before : List (Text × Value))

/-- A state of reading a value. -/
structure Place where
  /-- How many containers stand around the value. -/
  outside : Nat
  /-- The containers in the value that stand around the current place, innermost first. -/
  around : List Frame
  /-- What comes next. -/
  next : Expectation

/-- How many containers may stand in one another. -/
def maxDepth : Nat :=
  127

namespace Place

/-- The place at the beginning of a value around which containers stand. -/
def start (outside : Nat) : Place :=
  ⟨outside, [], .value⟩

/-- Goes on behind a complete value: in the innermost container, or not at all. -/
def deliver (outside : Nat) (around : List Frame) (v : Value) : Place ⊕ Value :=
  match around with
  | [] => .inr v
  | .array before :: around => .inl ⟨outside, around, .moreItems (v :: before)⟩
  | .object before key :: around => .inl ⟨outside, around, .moreMembers ((key, v) :: before)⟩

/-- Enters a container unless too many are open. -/
def enter (outside : Nat) (around : List Frame) (next : Expectation) :
    Except Fault (Place ⊕ Value) :=
  if outside + around.length < maxDepth then .ok (.inl ⟨outside, around, next⟩)
  else .error .malformed

/-- Takes the first token of a value. -/
def beginValue (outside : Nat) (around : List Frame) (token : Token) :
    Except Fault (Place ⊕ Value) :=
  match token with
  | .openBracket => enter outside around .itemOrEnd
  | .openBrace => enter outside around .keyOrEnd
  | .scalar v => .ok (deliver outside around v)
  | token => .error token.misplaced

/-- Takes a key. -/
def takeKey (p : Place) (before : List (Text × Value)) : Token → Except Fault (Place ⊕ Value)
  | .scalar (.text key) => .ok (.inl { p with next := .colon before key })
  | .broken true fault => .error fault
  | _ => .error .malformed

/-- Takes one token. -/
def step (p : Place) (token : Token) : Except Fault (Place ⊕ Value) :=
  match p.next, token with
  | .value, token => beginValue p.outside p.around token
  | .itemOrEnd, .closeBracket => .ok (deliver p.outside p.around (.array []))
  | .itemOrEnd, token => beginValue p.outside (.array [] :: p.around) token
  | .moreItems before, .comma =>
    .ok (.inl { p with around := .array before :: p.around, next := .value })
  | .moreItems before, .closeBracket => .ok (deliver p.outside p.around (.array before.reverse))
  | .moreItems _, _ => .error .malformed
  | .keyOrEnd, .closeBrace => .ok (deliver p.outside p.around (.object []))
  | .keyOrEnd, token => takeKey p [] token
  | .key before, token => takeKey p before token
  | .colon before key, .colon =>
    .ok (.inl { p with around := .object before key :: p.around, next := .value })
  | .colon _ _, _ => .error .malformed
  | .moreMembers before, .comma => .ok (.inl { p with next := .key before })
  | .moreMembers before, .closeBrace => .ok (deliver p.outside p.around (.object before.reverse))
  | .moreMembers _, _ => .error .malformed

end Place

/-- The reader of any value. -/
def Reader.value : Reader Place Value :=
  ⟨Place.step⟩

/-- Reads a text as one value. -/
def read (t : Text) : Except Fault Value :=
  Reader.value.runText (.start 0) t

/-! ## Arrays of texts -/

/-- A state of reading an array of texts. The texts that are read are in reverse. -/
inductive TextsPlace where
  /-- Before the array. -/
  | start
  /-- Behind its opening bracket. -/
  | first
  /-- Behind a comma. -/
  | next (before : List Text)
  /-- Behind a text. -/
  | more (before : List Text)

/-- The reader of an array of texts. -/
def Reader.texts : Reader TextsPlace (List Text) where
  step
    | .start, .openBracket => .ok (.inl .first)
    | .first, .closeBracket => .ok (.inr [])
    | .first, .scalar (.text t) => .ok (.inl (.more [t]))
    | .next before, .scalar (.text t) => .ok (.inl (.more (t :: before)))
    | .more before, .comma => .ok (.inl (.next before))
    | .more before, .closeBracket => .ok (.inr before.reverse)
    | .more _, _ => .error .malformed
    | _, token => .error token.misplaced

/-! ## Arrays of counts -/

/-- A state of reading an array of pairs of a key and a count. The pairs that are read are in
reverse. -/
inductive CountsPlace (K : Type) where
  /-- Before the array. -/
  | start
  /-- Behind its opening bracket. -/
  | first
  /-- Behind a comma between pairs. -/
  | next (before : List (K × Nat))
  /-- Behind the opening bracket of a pair. -/
  | key (before : List (K × Nat))
  /-- Behind a key. -/
  | separator (before : List (K × Nat)) (k : K)
  /-- Behind the comma of a pair. -/
  | count (before : List (K × Nat)) (k : K)
  /-- Behind a count. -/
  | pairEnd (before : List (K × Nat))
  /-- Behind a pair. -/
  | more (before : List (K × Nat))

/-- The value of a token that is one by itself. -/
def Token.scalar? : Token → Option Value
  | .scalar v => some v
  | _ => none

/-- The reader of an array of pairs of a key and a count. -/
def Reader.counts {K : Type} (key? : Value → Option K) :
    Reader (CountsPlace K) (List (K × Nat)) where
  step
    | .start, .openBracket => .ok (.inl .first)
    | .first, .closeBracket => .ok (.inr [])
    | .first, .openBracket => .ok (.inl (.key []))
    | .next before, .openBracket => .ok (.inl (.key before))
    | .key _, .closeBracket => .error .mistyped
    | .key before, token =>
      match token.scalar?.bind key? with
      | some k => .ok (.inl (.separator before k))
      | none => .error token.misplaced
    | .separator before k, .comma => .ok (.inl (.count before k))
    | .separator _ _, .closeBracket => .error .mistyped
    | .separator _ _, _ => .error .malformed
    | .count before k, token =>
      match token.scalar?.bind Value.natural? with
      | some n => .ok (.inl (.pairEnd ((k, n) :: before)))
      | none => .error token.misplaced
    | .pairEnd before, .closeBracket => .ok (.inl (.more before))
    | .pairEnd _, _ => .error .malformed
    | .more before, .comma => .ok (.inl (.next before))
    | .more before, .closeBracket => .ok (.inr before.reverse)
    | .more _, _ => .error .malformed
    | _, token => .error token.misplaced

end TexCensus.Json
