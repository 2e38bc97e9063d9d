import TexCensus.Text.Basic

/-!
# TOML tokens

A document falls into punctuation, blanks, line ends, quoted texts and bare runs. What a bare run
means depends on where it stands: a part of a key or of an unquoted value. A dot is a token of its
own, because it separates the parts of a key. Comments leave no token, and any text that is not
well-formed here makes no document at all.
-/

namespace TexCensus.Toml

/-- A token. -/
inductive Token where
  | dot
  | equals
  | comma
  | openBracket
  | closeBracket
  | openBrace
  | closeBrace
  /-- Spaces and tabs. -/
  | blank (t : Text)
  | lineEnd
  /-- A quoted text with its escapes resolved. -/
  | quoted (t : Text) (multiline : Bool)
  /-- Other characters in a row. -/
  | bare (t : Text)
deriving DecidableEq, Repr

namespace Token

/-- Whether a character is a space or a tab. -/
def isBlank (c : Char) : Bool :=
  c == ' ' || c == '\t'

/-- Whether a character may not stand in quoted texts and comments: the controls but the tab. -/
def isForbidden (c : Char) : Bool :=
  (c < ' ' && c != '\t') || c == '\x7f'

/-! ## Escapes -/

/-- The character that a letter behind a backslash stands for. -/
def shortEscape? : Char → Option Char
  | 'b' => some '\x08'
  | 't' => some '\t'
  | 'n' => some '\n'
  | 'f' => some '\x0c'
  | 'r' => some '\r'
  | 'e' => some '\x1b'
  | '"' => some '"'
  | '\\' => some '\\'
  | _ => none

/-- How many hexadecimal digits follow a letter behind a backslash. -/
def hexLength? : Char → Option Nat
  | 'x' => some 2
  | 'u' => some 4
  | 'U' => some 8
  | _ => none

/-- The character that exactly `n` hexadecimal digits at the front of a text name. -/
def hexChar? (n : Nat) (t : Text) : Option Char := do
  let digits ← (t.take n).mapM hexValue?
  let value := digits.foldl (fun v d => v * 16 + d) 0
  if digits.length = n ∧ value.isValidChar then some (Char.ofNat value) else none

/-- The length of the blanks and line ends at the front of a text, added to `used`. -/
def blankLines (used : Nat) : Text → Nat
  | ' ' :: rest => blankLines (used + 1) rest
  | '\t' :: rest => blankLines (used + 1) rest
  | '\n' :: rest => blankLines (used + 1) rest
  | '\r' :: '\n' :: rest => blankLines (used + 2) rest
  | _ => used

/-- Whether a text begins with a line end. -/
def startsWithLineEnd : Text → Bool
  | '\n' :: _ => true
  | '\r' :: '\n' :: _ => true
  | _ => false

/-- What an escape stands for, given what follows its backslash, and how many characters of that it
takes. In a text of several lines, a backslash at the end of a line joins the lines. -/
def escaped? (multiline : Bool) : Text → Option (Text × Nat)
  | [] => none
  | c :: rest =>
    if multiline && startsWithLineEnd ((c :: rest).dropWhile isBlank) then
      some ([], blankLines 0 (c :: rest))
    else match shortEscape? c, hexLength? c with
      | some meant, _ => some ([meant], 1)
      | none, some n => (hexChar? n rest).map fun meant => ([meant], n + 1)
      | none, none => none

/-! ## Quoted texts -/

/-- The quoted text behind an opening quote, of which the characters in `acc` are already read, in
reverse; `used` characters led to them. Backslashes escape between double quotes only. A text of
several lines ends with three quotes, before which up to two may belong to it. -/
def quotedOnto? (quote : Char) (multiline : Bool) (acc : Text) (used : Nat) :
    Text → Option (Text × Nat)
  | [] => none
  | c :: rest =>
    if c = quote then
      if !multiline then some (acc.reverse, used + 1)
      else
        let more := (rest.takeWhile (· = quote)).length
        if more < 2 then
          quotedOnto? quote multiline (List.replicate (more + 1) quote ++ acc) (used + more + 1)
            (rest.drop more)
        else
          let inside := min (more - 2) 2
          some ((List.replicate inside quote ++ acc).reverse, used + inside + 3)
    else if c = '\\' && quote = '"' then
      match escaped? multiline rest with
      | some (meant, n) =>
        quotedOnto? quote multiline (meant.reverse ++ acc) (used + n + 1) (rest.drop n)
      | none => none
    else if multiline && startsWithLineEnd (c :: rest) then
      quotedOnto? quote multiline (c :: acc) (used + 1) rest
    else if isForbidden c then none
    else quotedOnto? quote multiline (c :: acc) (used + 1) rest
termination_by t => t.length
decreasing_by all_goals simp only [List.length_drop, List.length_cons]; omega

/-- The quoted text that begins with `quote`, and how many characters of `rest` it takes. A line
end directly behind three quotes does not belong to the text. -/
def quotedAt? (quote : Char) (rest : Text) : Option (Token × Nat) :=
  let finish (multiline : Bool) (read : Option (Text × Nat)) : Option (Token × Nat) :=
    read.map fun (t, used) => (quoted t multiline, used)
  match dropStart? [quote, quote] rest with
  | none => finish false (quotedOnto? quote false [] 0 rest)
  | some ('\n' :: body) => finish true (quotedOnto? quote true [] 3 body)
  | some ('\r' :: '\n' :: body) => finish true (quotedOnto? quote true [] 4 body)
  | some body => finish true (quotedOnto? quote true [] 2 body)

/-! ## One token -/

/-- The token of a punctuation character. -/
def punctuation? : Char → Option Token
  | '.' => some dot
  | '=' => some equals
  | ',' => some comma
  | '[' => some openBracket
  | ']' => some closeBracket
  | '\x7b' => some openBrace
  | '\x7d' => some closeBrace
  | '\n' => some lineEnd
  | _ => none

/-- Whether a character ends a bare run. -/
def endsBare (c : Char) : Bool :=
  isBlank c || c == '#' || c == '\r' || (punctuation? c).isSome

/-- What begins with `c`, a token or nothing, and how many characters of `rest` it takes. -/
def tokenAt? (c : Char) (rest : Text) : Option (Option Token × Nat) :=
  if isBlank c then
    let more := rest.takeWhile isBlank
    some (some (blank (c :: more)), more.length)
  else if c = '#' then
    let comment := rest.takeWhile fun d => d != '\n' && d != '\r'
    if comment.any isForbidden then none else some (none, comment.length)
  else if c = '\r' then
    if rest.head? = some '\n' then some (some lineEnd, 1) else none
  else if c = '"' || c = '\'' then
    (quotedAt? c rest).map fun (token, used) => (some token, used)
  else match punctuation? c with
    | some token => some (some token, 0)
    | none =>
      let more := rest.takeWhile fun d => !endsBare d
      some (some (bare (c :: more)), more.length)

/-! ## All tokens -/

/-- The tokens of a text behind those in `acc`, which are in reverse. -/
def tokensOnto? (acc : List Token) : Text → Option (List Token)
  | [] => some acc.reverse
  | c :: rest =>
    match tokenAt? c rest with
    | some (token, used) => tokensOnto? (token.toList ++ acc) (rest.drop used)
    | none => none
termination_by t => t.length
decreasing_by simp only [List.length_drop, List.length_cons]; omega

/-- The tokens of a text, which may begin with a mark of its byte order. -/
def ofText? : Text → Option (List Token)
  | '\ufeff' :: rest => tokensOnto? [] rest
  | t => tokensOnto? [] t

end Token

end TexCensus.Toml
