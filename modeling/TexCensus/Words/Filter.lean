import TexCensus.Text.Basic
import TexCensus.Unicode.Alphabetic

/-!
# Token filters

Two rules, each with a switch of its own, drop tokens that are no words of the prose: tokens with
a character that is not alphabetic, and single characters that are not listed as words.
-/

namespace TexCensus

/-- Which tokens count as words. -/
structure TokenFilter where
  /-- Drop tokens with a character that is not alphabetic. -/
  dropNonAlphabetic : Bool
  /-- Drop tokens of one character outside the whitelist. -/
  dropSingleLetters : Bool
  /-- The words of one character. -/
  whitelist : List Text
deriving DecidableEq, Repr

/-- Whether a token passes every rule that is switched on. -/
def TokenFilter.keeps (f : TokenFilter) (token : Text) : Bool :=
  !(f.dropNonAlphabetic && !token.all Unicode.isAlphabetic)
    && !(f.dropSingleLetters && token.length == 1 && !f.whitelist.contains token)

end TexCensus
