import TexCensus.Stem.Suffix

/-!
# Spanish stems

The suffix-stripping stemmer for Spanish: an attached pronoun comes off first, then one standard or
verb ending, then a residual vowel. Acute accents are dropped at the end.
-/

namespace TexCensus.Stem.Spanish

/-- The vowels. -/
def vowel : Char → Bool :=
  oneOf "aeiouáéíóúü"

/-- A letter without its acute accent. -/
def dropAccent : Char → Char
  | 'á' => 'a'
  | 'é' => 'e'
  | 'í' => 'i'
  | 'ó' => 'o'
  | 'ú' => 'u'
  | c => c

/-! ## Attached pronouns -/

/-- The pronouns that attach to a verb form. -/
def pronouns : Endings Unit :=
  endingsOf ["me se sela selo selas selos la le lo las les los nos"]

/-- The verb forms that take a pronoun: written with an accent because of it, plain, or plain but
only behind a `u`. -/
inductive Host where
  | accented (plain : String)
  | plain
  | afterU

/-- The endings of the verb forms that take a pronoun. -/
def hosts : Endings Host := endings [
  ("iéndo", .accented "iendo"), ("ándo", .accented "ando"), ("ár", .accented "ar"),
  ("ér", .accented "er"), ("ír", .accented "ir"), ("ando iendo ar er ir", .plain),
  ("yendo", .afterU)]

/-- Takes an attached pronoun off a verb form. -/
def dropPronoun (r : Regions) (word : Text) : Text :=
  match longest? pronouns word 0 with
  | none => word
  | some (verb, _) =>
    match longest? hosts verb 0 with
    | none => word
    | some (stem, host) =>
      if !r.inRV stem then word
      else match host with
        | .accented plain => stem ++ plain.toList
        | .plain => verb
        | .afterU => if endsWith stem "u" then verb else word

/-! ## Standard endings -/

/-- What to do with a standard ending. -/
inductive Standard where
  | drop
  | agent
  | logy
  | action
  | state
  | manner
  | adverb
  | quality
  | active

/-- The standard endings. -/
def standardEndings : Endings Standard := endings [
  ("anza anzas ico ica icos icas ismo ismos able ables ible ibles ista istas oso osa", .drop),
  ("osos osas amiento amientos imiento imientos", .drop),
  ("adora ador ación adoras adores aciones ante antes ancia ancias", .agent),
  ("logía logías", .logy),
  ("ución uciones", .action),
  ("encia encias", .state),
  ("amente", .manner),
  ("mente", .adverb),
  ("idad idades", .quality),
  ("iva ivo ivas ivos", .active)]

/-- The endings that an adverb in `-amente` may keep. -/
def mannerEndings : Endings Bool := endings [("iv", true), ("os ic ad", false)]

/-- The endings that an adverb in `-mente` may keep. -/
def adverbEndings : Endings Unit := endingsOf ["ante able ible"]

/-- The endings that a noun in `-idad` may keep. -/
def qualityEndings : Endings Unit := endingsOf ["abil ic iv"]

/-- Takes a standard ending off. -/
def standardSuffix (r : Regions) (word : Text) : Option Text := do
  let (stem, ending) ← longest? standardEndings word 0
  match ending with
  | .drop => keepIf (r.inR2 stem) stem
  | .agent => keepIf (r.inR2 stem) (alsoDrop "ic" r.inR2 stem)
  | .logy => keepIf (r.inR2 stem) (stem ++ "log".toList)
  | .action => keepIf (r.inR2 stem) (stem ++ "u".toList)
  | .state => keepIf (r.inR2 stem) (stem ++ "ente".toList)
  | .manner =>
    keepIf (r.inR1 stem) <| match longest? mannerEndings stem 0 with
      | some (shorter, at_) =>
        if !r.inR2 shorter then stem
        else if at_ then alsoDrop "at" r.inR2 shorter
        else shorter
      | none => stem
  | .adverb => keepIf (r.inR2 stem) (alsoDropOne adverbEndings r.inR2 stem)
  | .quality => keepIf (r.inR2 stem) (alsoDropOne qualityEndings r.inR2 stem)
  | .active => keepIf (r.inR2 stem) (alsoDrop "at" r.inR2 stem)

/-! ## Verb endings -/

/-- The verb endings that begin with `y` and stand behind a `u`. -/
def yEndings : Endings Unit :=
  endingsOf ["ya ye yan yen yeron yendo yo yó yas yes yais yamos"]

/-- Takes a verb ending in `y` off. -/
def yVerbSuffix (r : Regions) (word : Text) : Option Text := do
  let (stem, _) ← longest? yEndings word r.rv
  keepIf (endsWith stem "u") stem

/-- The other verb endings; before those marked `true` a `u` behind a `g` goes too. -/
def verbEndings : Endings Bool := endings [
  ("en es éis emos", true),
  ("arían arías arán arás aríais aría aréis aríamos aremos ará aré erían erías erán", false),
  ("erás eríais ería eréis eríamos eremos erá eré irían irías irán irás iríais iría", false),
  ("iréis iríamos iremos irá iré aba ada ida ía ara iera ad ed id ase iese aste iste", false),
  ("an aban ían aran ieran asen iesen aron ieron ado ido ando iendo ió ar er ir as", false),
  ("abas adas idas ías aras ieras ases ieses ís áis abais íais arais ierais aseis", false),
  ("ieseis asteis isteis ados idos amos ábamos íamos imos áramos iéramos iésemos", false),
  ("ásemos", false)]

/-- Takes a verb ending off. -/
def verbSuffix (r : Regions) (word : Text) : Option Text := do
  let (stem, hard) ← longest? verbEndings word r.rv
  some (if hard && endsWith stem "gu" then stem.dropLast else stem)

/-! ## Residual endings -/

/-- The residual endings; before those marked `true` a `u` behind a `g` goes too. -/
def residualEndings : Endings Bool := endings [("os a o á í ó", false), ("e é", true)]

/-- Takes a residual ending off. -/
def residualSuffix (r : Regions) (word : Text) : Text :=
  match longest? residualEndings word 0 with
  | none => word
  | some (stem, hard) =>
    if !r.inRV stem then word
    else if hard then alsoDrop "u" (fun shorter => endsWith shorter "g" && r.inRV shorter) stem
    else stem

/-- The stem of a word. -/
def stem (word : Text) : Text :=
  let r := romanceRegions vowel word
  let word := dropPronoun r word
  let word :=
    (((standardSuffix r word).or (yVerbSuffix r word)).or (verbSuffix r word)).getD word
  (residualSuffix r word).map dropAccent

end TexCensus.Stem.Spanish
