import TexCensus.Stem.Suffix

/-!
# English stems

The suffix-stripping stemmer for English, in its second version. A `y` that is a consonant is
written as a capital while endings come off. A few words have stems of their own, and words of one
or two letters are left as they are.
-/

namespace TexCensus.Stem.English

/-- The vowels. -/
def vowel : Char → Bool :=
  oneOf "aeiouy"

/-- The letters that may follow the vowel of a short syllable are all others. -/
def vowelOrGlide : Char → Bool :=
  oneOf "aeiouywxY"

/-- The consonants that `-li` may follow. -/
def beforeLi : Char → Bool :=
  oneOf "cdeghkmnrt"

/-! ## Words with stems of their own -/

/-- Words whose stem is listed. -/
def listed : List (String × String) := [
  ("skis", "ski"), ("skies", "sky"), ("dying", "die"), ("lying", "lie"), ("tying", "tie"),
  ("idly", "idl"), ("gently", "gentl"), ("ugly", "ugli"), ("early", "earli"), ("only", "onli"),
  ("singly", "singl"),
  ("sky", "sky"), ("news", "news"), ("howe", "howe"),
  ("atlas", "atlas"), ("cosmos", "cosmos"), ("bias", "bias"), ("andes", "andes")]

/-- Words that keep their form once the plural is off. -/
def invariant : List String :=
  ["inning", "outing", "canning", "herring", "earring", "proceed", "exceed", "succeed"]

/-! ## Consonant y -/

/-- Marks a `y` behind a vowel. -/
def markAfterVowels : Text → Text
  | a :: 'y' :: rest =>
    if vowel a then a :: 'Y' :: markAfterVowels rest
    else a :: markAfterVowels ('y' :: rest)
  | a :: rest => a :: markAfterVowels rest
  | [] => []

/-- Drops a leading apostrophe and marks each `y` that is a consonant. -/
def normalize (word : Text) : Text :=
  let word := match word with
    | '\'' :: rest => rest
    | _ => word
  markAfterVowels <| match word with
    | 'y' :: rest => 'Y' :: rest
    | _ => word

/-! ## Regions -/

/-- The beginnings that are the whole of what stands in front of the first region. -/
def listedBeginnings : List String := ["gener", "commun", "arsen"]

/-- The regions of a word. -/
def regions (word : Text) : Regions :=
  let first := match listedBeginnings.findSome? fun start => dropStart? start.toList word with
    | some rest => some rest
    | none => pastSyllable? vowel word
  { rv := word.length
    r1 := mark word first
    r2 := mark word (first.bind (pastSyllable? vowel)) }

/-- Whether a word ends with a short syllable: a vowel between consonants, the last of them none of
`w`, `x` and `Y`, or a word of a vowel and a consonant. -/
def endsShort (word : Text) : Bool :=
  match word.reverse with
  | [c, v] => !vowel c && vowel v
  | c :: v :: b :: _ => !vowelOrGlide c && vowel v && !vowel b
  | _ => false

/-! ## Steps -/

/-- What to do with an ending of a plural. -/
inductive Plural where
  | sses
  | ies
  | s
  | keep

/-- The endings of plurals. -/
def pluralEndings : Endings Plural := endings [
  ("sses", .sses), ("ied ies", .ies), ("s", .s), ("us ss", .keep)]

/-- Takes the ending of a genitive and of a plural off. -/
def dropPlural (word : Text) : Text :=
  let word := match longest? (endingsOf ["' 's 's'"]) word 0 with
    | some (stem, _) => stem
    | none => word
  match longest? pluralEndings word 0 with
  | some (stem, .sses) => stem ++ "ss".toList
  | some (stem, .ies) => if 2 ≤ stem.length then stem ++ ['i'] else stem ++ "ie".toList
  | some (stem, .s) => if stem.dropLast.any vowel then stem else word
  | some (_, .keep) => word
  | none => word

/-- The endings of participles; those marked `true` only lose what follows `ee`. -/
def participleEndings : Endings Bool := endings [("eed eedly", true), ("ed edly ing ingly", false)]

/-- Mends a verb stem that has lost its ending: an `e` that was lost comes back and a consonant
that was doubled is made single. -/
def mendVerb (r : Regions) (word : Text) : Text :=
  if ["at", "bl", "iz"].any (endsWith word) then word ++ ['e']
  else if ["bb", "dd", "ff", "gg", "mm", "nn", "pp", "rr", "tt"].any (endsWith word) then
    word.dropLast
  else if word.length = r.r1 && endsShort word then word ++ ['e']
  else word

/-- Takes the ending of a participle off. -/
def dropParticiple (r : Regions) (word : Text) : Text :=
  match longest? participleEndings word 0 with
  | some (stem, true) => if r.inR1 stem then stem ++ "ee".toList else word
  | some (stem, false) => if stem.any vowel then mendVerb r stem else word
  | none => word

/-- Turns a final `y` behind a consonant into `i`, but not in the second letter. -/
def softenY (word : Text) : Text :=
  match word.reverse with
  | y :: c :: b :: rest =>
    if (y = 'y' || y = 'Y') && !vowel c then ('i' :: c :: b :: rest).reverse else word
  | _ => word

/-- What to do with a double ending. -/
inductive Double where
  | become (ending : String)
  | ogi
  | li

/-- The double endings. -/
def doubleEndings : Endings Double := endings [
  ("tional", .become "tion"), ("enci", .become "ence"), ("anci", .become "ance"),
  ("abli", .become "able"), ("entli", .become "ent"), ("izer ization", .become "ize"),
  ("ational ation ator", .become "ate"), ("alism aliti alli", .become "al"),
  ("fulness", .become "ful"), ("ousli ousness", .become "ous"), ("iveness iviti", .become "ive"),
  ("biliti bli", .become "ble"), ("ogi", .ogi), ("fulli", .become "ful"),
  ("lessli", .become "less"), ("li", .li)]

/-- Makes a double ending single. -/
def singleEnding (r : Regions) (word : Text) : Text :=
  match longest? doubleEndings word 0 with
  | none => word
  | some (stem, ending) =>
    if !r.inR1 stem then word
    else match ending with
      | .become e => stem ++ e.toList
      | .ogi => if endsWith stem "l" then stem ++ "og".toList else word
      | .li => if lastIs stem beforeLi then stem else word

/-- What to do with an ending of an adjective or a noun. -/
inductive Third where
  | become (ending : String)
  | drop
  | dropLate

/-- The endings of the third step. -/
def thirdEndings : Endings Third := endings [
  ("tional", .become "tion"), ("ational", .become "ate"), ("alize", .become "al"),
  ("icate iciti ical", .become "ic"), ("ful ness", .drop), ("ative", .dropLate)]

/-- Shortens an ending of an adjective or a noun. -/
def shortenEnding (r : Regions) (word : Text) : Text :=
  match longest? thirdEndings word 0 with
  | none => word
  | some (stem, ending) =>
    if !r.inR1 stem then word
    else match ending with
      | .become e => stem ++ e.toList
      | .drop => stem
      | .dropLate => if r.inR2 stem then stem else word

/-- The endings of the fourth step; the one marked `true` needs an `s` or `t` before it. -/
def fourthEndings : Endings Bool := endings [
  ("al ance ence er ic able ible ant ement ment ent ism ate iti ous ive ize", false),
  ("ion", true)]

/-- Takes an ending in the second region off. -/
def dropEnding (r : Regions) (word : Text) : Text :=
  match longest? fourthEndings word 0 with
  | none => word
  | some (stem, ion) =>
    if r.inR2 stem && (!ion || lastIs stem (oneOf "st")) then stem else word

/-- Takes a final `e`, or the second of two final `l`, off. -/
def dropFinal (r : Regions) (word : Text) : Text :=
  match without? "e" word, without? "l" word with
  | some stem, _ => if r.inR2 stem || (r.inR1 stem && !endsShort stem) then stem else word
  | none, some stem => if r.inR2 stem && endsWith stem "l" then stem else word
  | none, none => word

/-- Removes the marks, if there are any. -/
def unmark (marked : Bool) (word : Text) : Text :=
  if marked then word.map fun c => if c = 'Y' then 'y' else c else word

/-- The stem of a word. -/
def stem (word : Text) : Text :=
  match listed.find? fun e => e.1.toList = word with
  | some (_, stem) => stem.toList
  | none =>
    if word.length < 3 then word
    else
      let marked := normalize word
      let r := regions marked
      let singular := dropPlural marked
      -- A capital that the word itself had stays unless a mark was set beside it.
      unmark (marked.count 'Y' != word.count 'Y') <|
        if invariant.any fun w => w.toList = singular then singular
        else
          dropFinal r <| dropEnding r <| shortenEnding r <| singleEnding r <|
            softenY (dropParticiple r singular)

end TexCensus.Stem.English
