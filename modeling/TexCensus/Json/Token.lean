import TexCensus.Json.Numeral

/-!
# JSON tokens

A text falls into tokens: punctuation, keywords, numbers and quoted texts, with blanks between
them. The first one that is broken ends the list, because nothing behind it has a meaning. Whether
a broken token matters depends on what a reader expects in its place, so it is a token of its own
that remembers its fault.
-/

namespace TexCensus.Json

/-- A token. -/
inductive Token where
  | openBracket
  | closeBracket
  | openBrace
  | closeBrace
  | comma
  | colon
  /-- A value that is no container. -/
  | scalar (v : Value)
  /-- A value that is faulty. The flag says whether it begins as a quoted text. -/
  | broken (quoted : Bool) (fault : Fault)
deriving Repr

namespace Token

/-! ## Quoted texts -/

/-- The first sixteen bits that four hexadecimal digits at the front of a text name. -/
def fourDigits (t : Text) : Except Fault Nat :=
  match t with
  | a :: b :: c :: d :: _ =>
    match hexValue? a, hexValue? b, hexValue? c, hexValue? d with
    | some a, some b, some c, some d => .ok (((a * 16 + b) * 16 + c) * 16 + d)
    | _, _, _, _ => .error .malformed
  | few =>
    let size := few.foldr (fun c n => c.utf8Size + n) 0
    if size < 4 then .error .cutShort else .error .malformed

/-- Whether a number is the first half of a character beyond sixteen bits. -/
def isHighHalf (n : Nat) : Bool :=
  0xD800 ≤ n && n ≤ 0xDBFF

/-- Whether a number is the second half of a character beyond sixteen bits. -/
def isLowHalf (n : Nat) : Bool :=
  0xDC00 ≤ n && n ≤ 0xDFFF

/-- The character that hexadecimal digits at the front of a text name, and how many characters of
the text name it: four, or ten if it takes two halves. -/
def namedChar (t : Text) : Except Fault (Char × Nat) := do
  let high ← fourDigits t
  if isLowHalf high then throw .malformed
  if !isHighHalf high then return (Char.ofNat high, 4)
  match t.drop 4 with
  | [] | ['\\'] => throw .cutShort
  | '\\' :: 'u' :: rest =>
    let low ← fourDigits rest
    if !isLowHalf low then throw .malformed
    return (Char.ofNat (0x10000 + (high - 0xD800) * 0x400 + (low - 0xDC00)), 10)
  | _ => throw .malformed

/-- The character that a letter behind a backslash stands for. -/
def shortEscape? : Char → Option Char
  | '"' => some '"'
  | '\\' => some '\\'
  | '/' => some '/'
  | 'b' => some '\x08'
  | 'f' => some '\x0c'
  | 'n' => some '\n'
  | 'r' => some '\r'
  | 't' => some '\t'
  | _ => none

/-- The character that an escape stands for, given what follows its backslash, and how many
characters of that it takes. -/
def escaped : Text → Except Fault (Char × Nat)
  | [] => .error .cutShort
  | c :: rest =>
    if c = 'u' then (namedChar rest).map fun (named, used) => (named, used + 1)
    else match shortEscape? c with
      | some meant => .ok (meant, 1)
      | none => .error .malformed

/-- The quoted text behind an opening quote, of which the characters in `acc` are already read, in
reverse; `used` characters led to them. The answer counts the closing quote too. -/
def quotedOnto (acc : Text) (used : Nat) : Text → Except Fault (Text × Nat)
  | [] => .error .cutShort
  | c :: rest =>
    if c = '"' then .ok (acc.reverse, used + 1)
    else if c = '\\' then
      match escaped rest with
      | .ok (meant, n) => quotedOnto (meant :: acc) (used + 1 + n) (rest.drop n)
      | .error fault => .error fault
    else if c < ' ' then .error .malformed
    else quotedOnto (c :: acc) (used + 1) rest
termination_by t => t.length
decreasing_by all_goals simp only [List.length_drop, List.length_cons]; omega

/-! ## One token -/

/-- Whether a character may stand between tokens. -/
def isBlank (c : Char) : Bool :=
  c == ' ' || c == '\n' || c == '\t' || c == '\r'

/-- The token of a punctuation character. -/
def punctuation? : Char → Option Token
  | '[' => some openBracket
  | ']' => some closeBracket
  | '\x7b' => some openBrace
  | '\x7d' => some closeBrace
  | ',' => some comma
  | ':' => some colon
  | _ => none

/-- The token of a keyword, given what has to follow its first letter and what follows it. -/
def keyword (v : Value) (expected rest : Text) : Except Fault (Token × Nat) :=
  if expected.isPrefixOf rest then .ok (scalar v, expected.length)
  else if rest.isPrefixOf expected then .error .cutShort
  else .error .malformed

/-- The number that begins with `c`, and how many characters of `rest` it takes. -/
def numberAt (c : Char) (rest : Text) : Except Fault (Token × Nat) := do
  let (numeral, _) ← Numeral.ofText (c :: rest)
  match numeral.value? with
  | some v => return (scalar v, numeral.spelling.length - 1)
  | none => throw .malformed

/-- The value token that begins with `c`, and how many characters of `rest` it takes. -/
def valueAt (c : Char) (rest : Text) : Except Fault (Token × Nat) :=
  if c = '"' then (quotedOnto [] 0 rest).map fun (t, used) => (scalar (.text t), used)
  else if c = 'n' then keyword .null "ull".toList rest
  else if c = 't' then keyword (.bool true) "rue".toList rest
  else if c = 'f' then keyword (.bool false) "alse".toList rest
  else if c = '-' || c.isDigit then numberAt c rest
  else .error .malformed

/-! ## All tokens -/

/-- The tokens of a text behind those in `acc`, which are in reverse. -/
def tokensOnto (acc : List Token) : Text → List Token
  | [] => acc.reverse
  | c :: rest =>
    if isBlank c then tokensOnto acc rest
    else match punctuation? c with
      | some token => tokensOnto (token :: acc) rest
      | none =>
        match valueAt c rest with
        | .ok (token, used) => tokensOnto (token :: acc) (rest.drop used)
        | .error fault => (broken (c == '"') fault :: acc).reverse
termination_by t => t.length
decreasing_by all_goals simp only [List.length_drop, List.length_cons]; omega

/-- The tokens of a text. -/
def ofText (t : Text) : List Token :=
  tokensOnto [] t

/-- The fault of a token that stands in the place of a value of another kind: its own fault if it
is broken, the text's if no value can begin with it. -/
def misplaced : Token → Fault
  | closeBracket | closeBrace | comma | colon => .malformed
  | broken _ fault => fault
  | _ => .mistyped

end Token

end TexCensus.Json
