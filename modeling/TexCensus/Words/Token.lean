import TexCensus.Pattern.Search
import TexCensus.Text.Utf8
import TexCensus.Unicode.Lowercase

/-!
# Tokens

A token is a maximal run of word characters, unless it directly follows a backslash or an opening
brace or directly precedes a closing brace: those runs are command names and, as a rule, arguments
of commands that cleaning left in place.

The runs are those of a search. What stands next to one is looked up among the bytes of the text,
so a walk over the segments of the search counts bytes as it goes.
-/

namespace TexCensus

/-- A run of word characters. -/
def wordRun : Pattern :=
  .greedyPlus .word

/-- Whether the byte in front of an offset, a backslash or an opening brace, keeps the run that
begins there from being a token. -/
def opensArgument (bytes : Array UInt8) (start : Nat) : Bool :=
  0 < start && (bytes[start - 1]? == some 0x5C || bytes[start - 1]? == some 0x7B)

/-- Whether the byte at an offset, a closing brace, keeps the run that ends there from being a
token. -/
def closesArgument (bytes : Array UInt8) (stop : Nat) : Bool :=
  bytes[stop]? == some 0x7D

/-- A walk over the segments of a text. -/
structure TokenWalk where
  /-- The number of bytes walked over. -/
  offset : Nat := 0
  /-- The position of the next token among the tokens. -/
  position : UInt32 := 0
  /-- The tokens so far with their positions, in reverse. -/
  found : List (Text × UInt32) := []

/-- Walks over one segment. -/
def TokenWalk.step (bytes : Array UInt8) (w : TokenWalk) (s : Segment) : TokenWalk :=
  let stop := w.offset + (Utf8.encode s.text).length
  match s with
  | .kept _ => { w with offset := stop }
  | .hit run =>
    if opensArgument bytes w.offset || closesArgument bytes stop then { w with offset := stop }
    else
      { offset := stop, position := w.position + 1, found := (run, w.position) :: w.found }

/-- The tokens of a text in their own case, each with its position among the tokens. -/
def tokenize (t : Text) : List (Text × UInt32) :=
  ((wordRun.segments t).foldl (TokenWalk.step (Utf8.encode t).toArray) {}).found.reverse

/-- The tokens of a text in their own case. -/
def rawTokens (t : Text) : List Text :=
  (tokenize t).map Prod.fst

/-- The tokens of a text in lower case. The text is lowercased as a whole, so a sigma sees the
word it stands in. -/
def tokens (t : Text) : List Text :=
  rawTokens (Unicode.lowercase t)

end TexCensus
