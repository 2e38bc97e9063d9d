import TexCensus.Text.Basic
import TexCensus.Unicode.WordCharacter

/-!
# Patterns

A small language of text patterns and its matcher. A pattern matches at the front of a text. Where
several beginnings match, the matcher prefers one, and that preference is part of a pattern's
meaning: an optional part is taken if it can be, a `greedy` run is as long as possible and a `lazy`
run as short as possible, in each case as far as the rest of the pattern allows.

Repetition is over single characters only, so every run ends with the text and matching needs no
bound of its own.

A matcher takes a continuation, which receives the number of characters matched so far and the
text that is left, and may refuse; a refusal sends the matcher to its next choice.
-/

namespace TexCensus

/-! ## Syntax -/

/-- A set of characters that a pattern can name. -/
inductive CharSet where
  /-- Every character. -/
  | any
  /-- Every character but the line feed. -/
  | inline
  /-- The characters of words. -/
  | word
deriving DecidableEq, Repr

/-- Membership in a set of characters. -/
def CharSet.has : CharSet → Char → Bool
  | any, _ => true
  | inline, c => c != '\n'
  | word, c => Unicode.isWord c

/-- A pattern. -/
inductive Pattern where
  /-- Exactly this text. -/
  | literal (t : Text)
  /-- One character of a set. -/
  | one (s : CharSet)
  /-- Any number of characters of a set, as many as possible. -/
  | greedy (s : CharSet)
  /-- Any number of characters of a set, as few as possible. -/
  | lazy (s : CharSet)
  /-- Nothing, at a place where the text does not go on with a character of words. -/
  | wordEnd
  /-- The pattern or nothing, the pattern if possible. -/
  | optional (p : Pattern)
  /-- One pattern and then another. -/
  | seq (p q : Pattern)
deriving DecidableEq, Repr

namespace Pattern

/-- The patterns one after another. -/
def all : List Pattern → Pattern
  | [] => literal []
  | [p] => p
  | p :: ps => seq p (all ps)

/-- One or more characters of a set, as many as possible. -/
def greedyPlus (s : CharSet) : Pattern :=
  seq (one s) (greedy s)

/-- One or more characters of a set, as few as possible. -/
def lazyPlus (s : CharSet) : Pattern :=
  seq (one s) (lazy s)

/-! ## Matching -/

/-- What a matcher does next, given the number of characters matched and the text left. It answers
with the number of characters of the whole match, or refuses. -/
abbrev Continuation := Nat → Text → Option Nat

/-- A run of characters of `s` that is as long as `k` allows. -/
def runGreedy (s : CharSet) (k : Continuation) : Continuation
  | n, [] => k n []
  | n, c :: rest =>
    if s.has c then
      match runGreedy s k (n + 1) rest with
      | some m => some m
      | none => k n (c :: rest)
    else k n (c :: rest)

/-- A run of characters of `s` that is as short as `k` allows. -/
def runLazy (s : CharSet) (k : Continuation) : Continuation
  | n, [] => k n []
  | n, c :: rest =>
    match k n (c :: rest) with
    | some m => some m
    | none => if s.has c then runLazy s k (n + 1) rest else none

/-- Matches a pattern and goes on with `k`. -/
def run : Pattern → Continuation → Continuation
  | literal t, k, n, text =>
    match dropStart? t text with
    | some rest => k (n + t.length) rest
    | none => none
  | one _, _, _, [] => none
  | one s, k, n, c :: rest => if s.has c then k (n + 1) rest else none
  | greedy s, k, n, text => runGreedy s k n text
  | lazy s, k, n, text => runLazy s k n text
  | wordEnd, k, n, text =>
    match text with
    | c :: _ => if Unicode.isWord c then none else k n text
    | [] => k n text
  | optional p, k, n, text =>
    match p.run k n text with
    | some m => some m
    | none => k n text
  | seq p q, k, n, text => p.run (q.run k) n text

/-- The length of the preferred match at the front of a text. -/
def matchLength? (p : Pattern) (text : Text) : Option Nat :=
  p.run (fun n _ => some n) 0 text

end Pattern

end TexCensus
