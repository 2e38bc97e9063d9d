import TexCensus.Text.Basic

/-!
# Languages

The languages that texts can be in, and the kinds of stemmers.
-/

namespace TexCensus

/-- A language with a stemmer. -/
inductive Language where
  | portuguese
  | english
  | spanish
  | french
  | german
  | italian
deriving DecidableEq, Repr, Inhabited

namespace Language

/-- All languages. -/
def all : List Language :=
  [portuguese, english, spanish, french, german, italian]

/-- The name of a language, in lower case. -/
def name : Language → Text
  | portuguese => "portuguese".toList
  | english => "english".toList
  | spanish => "spanish".toList
  | french => "french".toList
  | german => "german".toList
  | italian => "italian".toList

/-- The language of a given name. -/
def ofName? (t : Text) : Option Language :=
  all.find? (·.name = t)

end Language

/-- A kind of stemmer. -/
inductive StemmerKind where
  /-- The suffix-stripping stemmer of the language, which works by regions of a word. -/
  | snowball
  /-- The removal of suffixes by rules alone, for Portuguese. -/
  | rslp
deriving DecidableEq, Repr, Inhabited

namespace StemmerKind

/-- The name of a kind. -/
def name : StemmerKind → Text
  | snowball => "snowball".toList
  | rslp => "rslp".toList

/-- The kind of a given name. -/
def ofName? (t : Text) : Option StemmerKind :=
  [snowball, rslp].find? (·.name = t)

end StemmerKind

end TexCensus
