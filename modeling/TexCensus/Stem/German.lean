import TexCensus.Stem.Suffix

/-!
# German stems

The suffix-stripping stemmer for German: inflection comes off in two steps and derivation in a
third. A sharp s is read as a double one, and a `u` or `y` between vowels is written as a capital
while endings come off.
-/

namespace TexCensus.Stem.German

/-- The vowels. -/
def vowel : Char → Bool :=
  oneOf "aeiouyäöü"

/-- The consonants that a plural `s` may follow. -/
def beforeS : Char → Bool :=
  oneOf "bdfghklmnrt"

/-- The consonants that an ending `-st` may follow. -/
def beforeSt : Char → Bool :=
  oneOf "bdfghklmnt"

/-- Reads a sharp s as two. -/
def splitSharpS (word : Text) : Text :=
  word.flatMap fun c => if c = 'ß' then ['s', 's'] else [c]

/-- Marks a `u` and a `y` between vowels. -/
def markGlides : Text → Text
  | a :: 'u' :: c :: rest =>
    if vowel a && vowel c then a :: 'U' :: markGlides (c :: rest)
    else a :: markGlides ('u' :: c :: rest)
  | a :: 'y' :: c :: rest =>
    if vowel a && vowel c then a :: 'Y' :: markGlides (c :: rest)
    else a :: markGlides ('y' :: c :: rest)
  | a :: rest => a :: markGlides rest
  | [] => []

/-- Removes the marks and the umlauts. -/
def unmark : Char → Char
  | 'Y' => 'y'
  | 'U' => 'u'
  | 'ä' => 'a'
  | 'ö' => 'o'
  | 'ü' => 'u'
  | c => c

/-- The regions of a word. The first one leaves at least three letters alone, and a word of fewer
letters has no regions. -/
def regions (word : Text) : Regions :=
  if word.length < 3 then { rv := word.length, r1 := word.length, r2 := word.length }
  else
    let (r1, r2) := markSyllables vowel word
    { rv := word.length, r1 := max r1 3, r2 }

/-- What to do with an ending of inflection. -/
inductive Inflection where
  | drop
  | dropWithNis
  | plural

/-- The endings of the first step. -/
def firstEndings : Endings Inflection := endings [
  ("em ern er", .drop), ("e en es", .dropWithNis), ("s", .plural)]

/-- Takes an ending of declension off. -/
def firstStep (r : Regions) (word : Text) : Text :=
  match longest? firstEndings word 0 with
  | none => word
  | some (stem, ending) =>
    if !r.inR1 stem then word
    else match ending with
      | .drop => stem
      | .dropWithNis => if endsWith stem "niss" then stem.dropLast else stem
      | .plural => if lastIs stem beforeS then stem else word

/-- The endings of the second step; the one marked `true` needs letters before it. -/
def secondEndings : Endings Bool := endings [("en er est", false), ("st", true)]

/-- Takes an ending of comparison or conjugation off. -/
def secondStep (r : Regions) (word : Text) : Text :=
  match longest? secondEndings word 0 with
  | none => word
  | some (stem, short) =>
    if !r.inR1 stem then word
    else if !short || (lastIs stem beforeSt && 4 ≤ stem.length) then stem
    else word

/-- What to do with an ending of derivation. -/
inductive Derivation where
  | noun
  | adjective
  | abstract
  | quality

/-- The endings of the third step. -/
def thirdEndings : Endings Derivation := endings [
  ("end ung", .noun), ("ig ik isch", .adjective), ("lich heit", .abstract), ("keit", .quality)]

/-- Takes an ending of derivation off. -/
def thirdStep (r : Regions) (word : Text) : Text :=
  match longest? thirdEndings word 0 with
  | none => word
  | some (stem, ending) =>
    if !r.inR2 stem then word
    else match ending with
      | .noun => alsoDrop "ig" (fun shorter => !endsWith shorter "e" && r.inR2 shorter) stem
      | .adjective => if endsWith stem "e" then word else stem
      | .abstract => alsoDropOne (endingsOf ["er en"]) r.inR1 stem
      | .quality => alsoDropOne (endingsOf ["lich ig"]) r.inR2 stem

/-- The stem of a word. -/
def stem (word : Text) : Text :=
  let word := markGlides (splitSharpS word)
  let r := regions word
  (thirdStep r (secondStep r (firstStep r word))).map unmark

end TexCensus.Stem.German
