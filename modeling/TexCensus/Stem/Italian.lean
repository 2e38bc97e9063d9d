import TexCensus.Stem.Suffix

/-!
# Italian stems

The suffix-stripping stemmer for Italian. Acute accents are read as grave ones, and a `u` or `i`
that is no vowel (behind `q` or between vowels) is written as a capital while endings come off.
-/

namespace TexCensus.Stem.Italian

/-- The vowels. -/
def vowel : Char → Bool :=
  oneOf "aeiouàèìòù"

/-- Reads acute accents as grave ones and marks a `u` behind `q`. -/
def normalize : Text → Text
  | 'á' :: rest => 'à' :: normalize rest
  | 'é' :: rest => 'è' :: normalize rest
  | 'í' :: rest => 'ì' :: normalize rest
  | 'ó' :: rest => 'ò' :: normalize rest
  | 'ú' :: rest => 'ù' :: normalize rest
  | 'q' :: 'u' :: rest => 'q' :: 'U' :: normalize rest
  | c :: rest => c :: normalize rest
  | [] => []

/-- Marks a `u` and an `i` between vowels. -/
def markGlides : Text → Text
  | a :: 'u' :: c :: rest =>
    if vowel a && vowel c then a :: 'U' :: markGlides (c :: rest)
    else a :: markGlides ('u' :: c :: rest)
  | a :: 'i' :: c :: rest =>
    if vowel a && vowel c then a :: 'I' :: markGlides (c :: rest)
    else a :: markGlides ('i' :: c :: rest)
  | a :: rest => a :: markGlides rest
  | [] => []

/-- Removes the marks. -/
def unmark : Char → Char
  | 'I' => 'i'
  | 'U' => 'u'
  | c => c

/-! ## Attached pronouns -/

/-- The pronouns that attach to a verb form. -/
def pronouns : Endings Unit := endingsOf [
  "ci gli la le li lo mi ne si ti vi sene gliela gliele glieli glielo gliene mela mele meli",
  "melo mene tela tele teli telo tene cela cele celi celo cene vela vele veli velo vene"]

/-- The endings of the verb forms that take a pronoun. An infinitive, marked `true`, lost its last
`e` to it. -/
def hosts : Endings Bool := endings [("ando endo", false), ("ar er ir", true)]

/-- Takes an attached pronoun off a verb form. -/
def dropPronoun (r : Regions) (word : Text) : Text :=
  match longest? pronouns word 0 with
  | none => word
  | some (verb, _) =>
    match longest? hosts verb 0 with
    | none => word
    | some (stem, infinitive) =>
      if !r.inRV stem then word
      else if infinitive then verb ++ ['e']
      else verb

/-! ## Standard endings -/

/-- What to do with a standard ending. -/
inductive Standard where
  | drop
  | action
  | logy
  | process
  | state
  | result
  | manner
  | quality
  | active

/-- The standard endings. -/
def standardEndings : Endings Standard := endings [
  ("anza anze ico ici ica ice iche ichi ismo ismi abile abili ibile ibili ista iste", .drop),
  ("isti istà istè istì oso osi osa ose mente atrice atrici ante anti", .drop),
  ("azione azioni atore atori", .action),
  ("logia logie", .logy),
  ("uzione uzioni usione usioni", .process),
  ("enza enze", .state),
  ("amento amenti imento imenti", .result),
  ("amente", .manner),
  ("ità", .quality),
  ("ivo ivi iva ive", .active)]

/-- The endings that an adverb in `-amente` may keep. -/
def mannerEndings : Endings Bool := endings [("iv", true), ("os ic abil", false)]

/-- The endings that a noun in `-ità` may keep. -/
def qualityEndings : Endings Unit := endingsOf ["abil ic iv"]

/-- Takes a standard ending off. -/
def standardSuffix (r : Regions) (word : Text) : Option Text := do
  let (stem, ending) ← longest? standardEndings word 0
  match ending with
  | .drop => keepIf (r.inR2 stem) stem
  | .action => keepIf (r.inR2 stem) (alsoDrop "ic" r.inR2 stem)
  | .logy => keepIf (r.inR2 stem) (stem ++ "log".toList)
  | .process => keepIf (r.inR2 stem) (stem ++ "u".toList)
  | .state => keepIf (r.inR2 stem) (stem ++ "ente".toList)
  | .result => keepIf (r.inRV stem) stem
  | .manner =>
    keepIf (r.inR1 stem) <| match longest? mannerEndings stem 0 with
      | some (shorter, at_) =>
        if !r.inR2 shorter then stem
        else if at_ then alsoDrop "at" r.inR2 shorter
        else shorter
      | none => stem
  | .quality => keepIf (r.inR2 stem) (alsoDropOne qualityEndings r.inR2 stem)
  | .active =>
    keepIf (r.inR2 stem) <| match without? "at" stem with
      | some shorter => if r.inR2 shorter then alsoDrop "ic" r.inR2 shorter else stem
      | none => stem

/-! ## Verb endings and vowels -/

/-- The endings of verbs. -/
def verbEndings : Endings Unit := endingsOf [
  "ammo ando ano are arono asse assero assi assimo ata ate ati ato ava avamo avano avate",
  "avi avo emmo enda ende endi endo erà erai eranno ere erebbe erebbero erei eremmo eremo",
  "ereste eresti erete erò erono essero ete eva evamo evano evate evi evo Yamo iamo immo",
  "irà irai iranno ire irebbe irebbero irei iremmo iremo ireste iresti irete irò irono isca",
  "iscano isce isci isco iscono issero ita ite iti ito iva ivamo ivano ivate ivi ivo ono",
  "uta ute uti uto ar ir"]

/-- Takes a verb ending off. -/
def verbSuffix (r : Regions) (word : Text) : Option Text :=
  (longest? verbEndings word r.rv).map Prod.fst

/-- Takes a final vowel off, with an `i` before it, and then an `h` behind `c` or `g`. -/
def vowelSuffix (r : Regions) (word : Text) : Text :=
  let word :=
    if lastIs word (oneOf "aeioàèìò") && r.inRV word.dropLast then alsoDrop "i" r.inRV word.dropLast
    else word
  alsoDrop "h" (fun stem => lastIs stem (oneOf "cg") && r.inRV stem.dropLast) word

/-- The stem of a word. -/
def stem (word : Text) : Text :=
  let word := markGlides (normalize word)
  let r := romanceRegions vowel word
  let word := dropPronoun r word
  let word := ((standardSuffix r word).or (verbSuffix r word)).getD word
  (vowelSuffix r word).map unmark

end TexCensus.Stem.Italian
