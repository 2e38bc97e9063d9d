import TexCensus.Stem.Suffix

/-!
# Portuguese stems

The suffix-stripping stemmer for Portuguese. A nasal vowel is spelt as a vowel and a tilde while
endings come off, so that both halves of an ending such as `-ção` are seen.
-/

namespace TexCensus.Stem.Portuguese

/-- The vowels. -/
def vowel : Char → Bool :=
  oneOf "aeiouáéíóúâêô"

/-- Spells nasal vowels with a tilde behind them. -/
def splitNasals (word : Text) : Text :=
  word.flatMap fun
    | 'ã' => ['a', '~']
    | 'õ' => ['o', '~']
    | c => [c]

/-- Puts nasal vowels together again. -/
def joinNasals : Text → Text
  | 'a' :: '~' :: rest => 'ã' :: joinNasals rest
  | 'o' :: '~' :: rest => 'õ' :: joinNasals rest
  | c :: rest => c :: joinNasals rest
  | [] => []

/-- What to do with a standard ending. -/
inductive Standard where
  | drop
  | logy
  | action
  | state
  | manner
  | adverb
  | quality
  | active
  | eira

/-- The standard endings. -/
def standardEndings : Endings Standard := endings [
  ("eza ezas ico ica icos icas ismo ismos ável ível ista istas oso osa osos osas", .drop),
  ("amento amentos imento imentos adora ador aça~o adoras adores aço~es ante antes", .drop),
  ("ância", .drop),
  ("logia logias", .logy),
  ("uça~o uço~es", .action),
  ("ência ências", .state),
  ("amente", .manner),
  ("mente", .adverb),
  ("idade idades", .quality),
  ("iva ivo ivas ivos", .active),
  ("ira iras", .eira)]

/-- The endings that an adverb in `-amente` may keep. -/
def mannerEndings : Endings Bool := endings [("iv", true), ("os ic ad", false)]

/-- The endings that an adverb in `-mente` may keep. -/
def adverbEndings : Endings Unit := endingsOf ["ante avel ível"]

/-- The endings that a noun in `-idade` may keep. -/
def qualityEndings : Endings Unit := endingsOf ["abil ic iv"]

/-- Takes a standard ending off. -/
def standardSuffix (r : Regions) (word : Text) : Option Text := do
  let (stem, ending) ← longest? standardEndings word 0
  match ending with
  | .drop => keepIf (r.inR2 stem) stem
  | .logy => keepIf (r.inR2 stem) (stem ++ "log".toList)
  | .action => keepIf (r.inR2 stem) (stem ++ "u".toList)
  | .state => keepIf (r.inR2 stem) (stem ++ "ente".toList)
  | .manner =>
    keepIf (r.inR1 stem) <| match longest? mannerEndings stem 0 with
      | some (shorter, at_) =>
        if !r.inR2 shorter then stem
        else if at_ then alsoDrop "at" r.inR2 shorter
        else shorter
      | none => stem
  | .adverb => keepIf (r.inR2 stem) (alsoDropOne adverbEndings r.inR2 stem)
  | .quality => keepIf (r.inR2 stem) (alsoDropOne qualityEndings r.inR2 stem)
  | .active => keepIf (r.inR2 stem) (alsoDrop "at" r.inR2 stem)
  | .eira => keepIf (r.inRV stem && endsWith stem "e") (stem ++ "ir".toList)

/-- The endings of verbs. -/
def verbEndings : Endings Unit := endingsOf [
  "ada ida ia aria eria iria ará ara erá era irá ava asse esse isse aste este iste ei arei",
  "erei irei am iam ariam eriam iriam aram eram iram avam em arem erem irem assem essem",
  "issem ado ido ando endo indo ara~o era~o ira~o ar er ir as adas idas ias arias erias",
  "irias arás aras erás eras irás avas es ardes erdes irdes ares eres ires asses esses",
  "isses astes estes istes is ais eis íeis aríeis eríeis iríeis áreis areis éreis ereis",
  "íreis ireis ásseis ésseis ísseis áveis ados idos ámos amos íamos aríamos eríamos iríamos",
  "áramos éramos íramos ávamos emos aremos eremos iremos ássemos êssemos íssemos imos armos",
  "ermos irmos eu iu ou ira iras"]

/-- Takes a verb ending off. -/
def verbSuffix (r : Regions) (word : Text) : Option Text :=
  (longest? verbEndings word r.rv).map Prod.fst

/-- The endings left to words that have neither a standard nor a verb ending. -/
def residualEndings : Endings Unit := endingsOf ["os a i o á í ó"]

/-- Takes a residual ending off. -/
def residualSuffix (r : Regions) (word : Text) : Text :=
  alsoDropOne residualEndings r.inRV word

/-- Takes the last letter off if it is this one, follows that one and lies in the region of the
verb endings. -/
def dropAfter (letter previous : String) (r : Regions) (word : Text) : Text :=
  alsoDrop letter (fun stem => endsWith stem previous && r.inRV stem) word

/-- Takes a final `e` off, with the `u` or `i` that only softened the consonant before it, and
turns a final cedilla into a plain `c`. -/
def residualForm (r : Regions) (word : Text) : Text :=
  match longest? (endings [("e é ê", true), ("ç", false)]) word 0 with
  | some (stem, true) =>
    if !r.inRV stem then word
    else if endsWith stem "gu" then dropAfter "u" "g" r stem
    else dropAfter "i" "c" r stem
  | some (stem, false) => stem ++ ['c']
  | none => word

/-- The stem of a word. -/
def stem (word : Text) : Text :=
  let word := splitNasals word
  let r := romanceRegions vowel word
  let word := match (standardSuffix r word).or (verbSuffix r word) with
    | some word => dropAfter "i" "c" r word
    | none => residualSuffix r word
  joinNasals (residualForm r word)

end TexCensus.Stem.Portuguese
