import TexCensus.Stem.Suffix

/-!
# French stems

The suffix-stripping stemmer for French. A `u`, `i` or `y` that is no vowel is written as a capital
while endings come off.

A standard ending can change the word and still leave the verb endings their turn: that is how
adverbs such as `confusément` lose first the adverb's and then the participle's ending. So that
step reports its word and, apart from it, whether it counts as done.
-/

namespace TexCensus.Stem.French

/-- The vowels. -/
def vowel : Char → Bool :=
  oneOf "aeiouyâàëéêèïîôûù"

/-- Marks each `u`, `i` and `y` that is no vowel. -/
def markGlides : Text → Text
  | [] => []
  | 'q' :: 'u' :: rest => 'q' :: 'U' :: markGlides rest
  | [a] => [a]
  | [a, b] =>
    if vowel a && b == 'y' then [a, 'Y']
    else if a == 'y' && vowel b then 'Y' :: markGlides [b]
    else a :: markGlides [b]
  | a :: b :: c :: rest =>
    if vowel a && b == 'u' && vowel c then a :: 'U' :: markGlides (c :: rest)
    else if vowel a && b == 'i' && vowel c then a :: 'I' :: markGlides (c :: rest)
    else if vowel a && b == 'y' then a :: 'Y' :: markGlides (c :: rest)
    else if a == 'y' && vowel b then 'Y' :: markGlides (b :: c :: rest)
    else a :: markGlides (b :: c :: rest)

/-- Removes the marks. -/
def unmark : Char → Char
  | 'I' => 'i'
  | 'U' => 'u'
  | 'Y' => 'y'
  | c => c

/-- The region of the verb endings: what follows three letters if the word begins with two vowels
or with one of three listed beginnings, else what follows the first vowel behind the first
letter. -/
def verbRegion? (word : Text) : Option Text :=
  match word with
  | a :: b :: c :: rest =>
    if vowel a && vowel b then some rest
    else if ["par", "col", "tap"].contains (String.ofList [a, b, c]) then some rest
    else past? vowel (b :: c :: rest)
  | _ :: rest => past? vowel rest
  | [] => none

/-- The regions of a word. -/
def regions (word : Text) : Regions :=
  let (r1, r2) := markSyllables vowel word
  { rv := mark word (verbRegion? word), r1, r2 }

/-! ## Standard endings -/

/-- What to do with a standard ending. -/
inductive Standard where
  | drop
  | agent
  | logy
  | action
  | state
  | manner
  | quality
  | active
  | beautiful
  | plural
  | feminine
  | verbal
  | fromAnt
  | fromEnt
  | adverb

/-- The standard endings. -/
def standardEndings : Endings Standard := endings [
  ("ance iqUe isme able iste eux ances iqUes ismes ables istes", .drop),
  ("atrice ateur ation atrices ateurs ations", .agent),
  ("logie logies", .logy),
  ("usion ution usions utions", .action),
  ("ence ences", .state),
  ("ement ements", .manner),
  ("ité ités", .quality),
  ("if ive ifs ives", .active),
  ("eaux", .beautiful),
  ("aux", .plural),
  ("euse euses", .feminine),
  ("issement issements", .verbal),
  ("amment", .fromAnt),
  ("emment", .fromEnt),
  ("ment ments", .adverb)]

/-- The endings that a word in `-ement` may keep. -/
inductive Manner where
  | active
  | adjective
  | drop
  | agent

/-- The endings that a word in `-ement` may keep. -/
def mannerEndings : Endings Manner := endings [
  ("iv", .active), ("eus", .adjective), ("abl iqU", .drop), ("ièr Ièr", .agent)]

/-- The endings that a noun in `-ité` may keep, each with what is left of it outside the second
region. -/
def qualityEndings : Endings (Option String) := endings [
  ("abil", some "abl"), ("ic", some "iqU"), ("iv", none)]

/-- Takes `ic` off, or turns it into `iqU` outside the second region. -/
def dropOrHardenIc (r : Regions) (word : Text) : Text :=
  match without? "ic" word with
  | some stem => if r.inR2 stem then stem else stem ++ "iqU".toList
  | none => word

/-- Takes off what a word in `-ement` keeps of an adjective. -/
def dropManner (r : Regions) (word : Text) : Text :=
  match longest? mannerEndings word 0 with
  | none => word
  | some (stem, .active) => if r.inR2 stem then alsoDrop "at" r.inR2 stem else word
  | some (stem, .adjective) =>
    if r.inR2 stem then stem else if r.inR1 stem then stem ++ "eux".toList else word
  | some (stem, .drop) => if r.inR2 stem then stem else word
  | some (stem, .agent) => if r.inRV stem then stem ++ ['i'] else word

/-- Takes off what a noun in `-ité` keeps of an adjective. -/
def dropQuality (r : Regions) (word : Text) : Text :=
  match longest? qualityEndings word 0 with
  | none => word
  | some (stem, rest) =>
    if r.inR2 stem then stem else match rest with
      | some rest => stem ++ rest.toList
      | none => word

/-- Takes a standard ending off; the flag says whether the step counts as done. -/
def standardSuffix (r : Regions) (word : Text) : Text × Bool :=
  let doneIf (condition : Bool) (changed : Text) : Text × Bool :=
    if condition then (changed, true) else (word, false)
  let undoneIf (condition : Bool) (changed : Text) : Text × Bool :=
    if condition then (changed, false) else (word, false)
  match longest? standardEndings word 0 with
  -- The last three groups are the adverbs, which leave a verb ending behind.
  | none => (word, false)
  | some (stem, ending) =>
    match ending with
    | .drop => doneIf (r.inR2 stem) stem
    | .agent => doneIf (r.inR2 stem) (dropOrHardenIc r stem)
    | .logy => doneIf (r.inR2 stem) (stem ++ "log".toList)
    | .action => doneIf (r.inR2 stem) (stem ++ "u".toList)
    | .state => doneIf (r.inR2 stem) (stem ++ "ent".toList)
    | .manner => doneIf (r.inRV stem) (dropManner r stem)
    | .quality => doneIf (r.inR2 stem) (dropQuality r stem)
    | .active =>
      doneIf (r.inR2 stem) <| match without? "at" stem with
        | some shorter => if r.inR2 shorter then dropOrHardenIc r shorter else stem
        | none => stem
    | .beautiful => doneIf true (stem ++ "eau".toList)
    | .plural => doneIf (r.inR1 stem) (stem ++ "al".toList)
    | .feminine =>
      if r.inR2 stem then (stem, true) else doneIf (r.inR1 stem) (stem ++ "eux".toList)
    | .verbal => doneIf (r.inR1 stem && lastIs stem (!vowel ·)) stem
    | .fromAnt => undoneIf (r.inRV stem) (stem ++ "ant".toList)
    | .fromEnt => undoneIf (r.inRV stem) (stem ++ "ent".toList)
    | .adverb => undoneIf (lastIs stem vowel && r.inRV stem.dropLast) stem

/-! ## Verb endings -/

/-- The verb endings of the second conjugation. -/
def iEndings : Endings Unit := endingsOf [
  "îmes ît îtes i ie ies ir ira irai iraIent irais irait iras irent irez iriez irions irons",
  "iront is issaIent issais issait issant issante issantes issants isse issent isses issez",
  "issiez issions issons it"]

/-- Takes a verb ending in `i` off if a consonant of the same region stands before it. -/
def iVerbSuffix (r : Regions) (word : Text) : Option Text := do
  let (stem, _) ← longest? iEndings word r.rv
  keepIf (r.rv < stem.length && lastIs stem (!vowel ·)) stem

/-- What to do with another verb ending. -/
inductive Verb where
  | plural
  | drop
  | dropWithE

/-- The other verb endings. -/
def verbEndings : Endings Verb := endings [
  ("ions", .plural),
  ("é ée ées és èrent er era erai eraIent erais erait eras erez eriez erions erons eront ez iez",
    .drop),
  ("âmes ât âtes a ai aIent ais ait ant ante antes ants as asse assent asses assiez assions",
    .dropWithE)]

/-- Takes another verb ending off. -/
def verbSuffix (r : Regions) (word : Text) : Option Text := do
  let (stem, ending) ← longest? verbEndings word r.rv
  match ending with
  | .plural => keepIf (r.inR2 stem) stem
  | .drop => some stem
  | .dropWithE => some (alsoDrop "e" r.inRV stem)

/-! ## Residual endings and spelling -/

/-- What to do with a residual ending. -/
inductive Residual where
  | noun
  | agent
  | drop
  | diaeresis

/-- The residual endings. -/
def residualEndings : Endings Residual := endings [
  ("ion", .noun), ("ier ière Ier Ière", .agent), ("e", .drop), ("ë", .diaeresis)]

/-- Takes a plural `s` off and then a residual ending. -/
def residualSuffix (r : Regions) (word : Text) : Text :=
  let word := alsoDrop "s" (fun stem => lastIs stem (!oneOf "aiouès" ·)) word
  match longest? residualEndings word r.rv with
  | none => word
  | some (stem, .noun) =>
    if r.inR2 stem && r.rv < stem.length && lastIs stem (oneOf "st") then stem else word
  | some (stem, .agent) => stem ++ ['i']
  | some (stem, .drop) => stem
  | some (stem, .diaeresis) =>
    match without? "gu" stem with
    | some shorter => if r.inRV shorter then stem else word
    | none => word

/-- Makes a double consonant at the end single. -/
def undouble (word : Text) : Text :=
  if ["enn", "onn", "ett", "ell", "eill"].any (endsWith word) then word.dropLast else word

/-- Takes the accent off an `e` that only consonants follow, at least one. -/
def unaccent (word : Text) : Text :=
  let consonants := word.reverse.takeWhile (!vowel ·)
  match consonants, word.reverse.dropWhile (!vowel ·) with
  | _ :: _, c :: rest =>
    if c = 'é' || c = 'è' then (consonants ++ 'e' :: rest).reverse else word
  | _, _ => word

/-- Turns a final marked `y` into `i` and a final cedilla into a plain `c`. -/
def softenEnd (word : Text) : Text :=
  match without? "Y" word, without? "ç" word with
  | some stem, _ => stem ++ ['i']
  | none, some stem => stem ++ ['c']
  | none, none => word

/-- The stem of a word. -/
def stem (word : Text) : Text :=
  let word := markGlides word
  let r := regions word
  let (word, done) := standardSuffix r word
  let found := if done then some word else (iVerbSuffix r word).or (verbSuffix r word)
  let word := match found with
    | some word => softenEnd word
    | none => residualSuffix r word
  (unaccent (undouble word)).map unmark

end TexCensus.Stem.French
