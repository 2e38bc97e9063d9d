import TexCensus.Text.Basic

/-!
# Suffixes and regions

What suffix-stripping stemmers share: finding the longest ending of a word in a table, and the
regions of a word in which an ending may be touched.

A region is given by the number of characters in front of it. An ending lies in a region when the
stem before it is at least that long, so regions stay valid while endings come off.
-/

namespace TexCensus.Stem

/-! ## Endings -/

/-- The word without a suffix, or `none` if it ends otherwise. -/
def stripSuffix? (suffix word : Text) : Option Text :=
  let stemLength := word.length - suffix.length
  if word.drop stemLength = suffix then some (word.take stemLength) else none

/-- Whether a word ends with a suffix. -/
def endsWith (word : Text) (suffix : String) : Bool :=
  (stripSuffix? suffix.toList word).isSome

/-- The word without a suffix given as a string. -/
def without? (suffix : String) (word : Text) : Option Text :=
  stripSuffix? suffix.toList word

/-- Endings with what they stand for. -/
abbrev Endings (α : Type) := List (Text × α)

/-- A table from groups of endings, which are separated by blanks. -/
def endings {α : Type} (groups : List (String × α)) : Endings α :=
  groups.flatMap fun (words, a) => (splitOn ' ' words.toList).map fun word => (word, a)

/-- A table of endings that all stand for the same. -/
def endingsOf (groups : List String) : Endings Unit :=
  endings (groups.map fun words => (words, ()))

/-- The longest ending of a word in a table: the stem before it and what it stands for. Endings
that would reach into the first `floor` characters do not count. -/
def longest? {α : Type} (table : Endings α) (word : Text) (floor : Nat) : Option (Text × α) :=
  table.foldl (fun best (suffix, a) =>
    match stripSuffix? suffix word with
    | none => best
    | some stem =>
      if stem.length < floor then best
      else match best with
        | some (shorter, _) => if stem.length < shorter.length then some (stem, a) else best
        | none => some (stem, a)) none

/-- Whether the last character of a word is one of a class. -/
def lastIs (word : Text) (p : Char → Bool) : Bool :=
  word.getLast?.any p

/-! ## Regions -/

/-- The number of characters in front of each region of a word. -/
structure Regions where
  /-- Before the region of the verb endings. -/
  rv : Nat
  /-- Before the first region: what follows the first consonant after a vowel. -/
  r1 : Nat
  /-- Before the second region: the first region of the first region. -/
  r2 : Nat

/-- Whether an ending behind this stem lies in the region of the verb endings. -/
def Regions.inRV (r : Regions) (stem : Text) : Bool :=
  r.rv ≤ stem.length

/-- Whether an ending behind this stem lies in the first region. -/
def Regions.inR1 (r : Regions) (stem : Text) : Bool :=
  r.r1 ≤ stem.length

/-- Whether an ending behind this stem lies in the second region. -/
def Regions.inR2 (r : Regions) (stem : Text) : Bool :=
  r.r2 ≤ stem.length

/-- What follows the first character that passes a test. -/
def past? (p : Char → Bool) : Text → Option Text
  | [] => none
  | c :: rest => if p c then some rest else past? p rest

/-- What follows the first consonant after a vowel. -/
def pastSyllable? (vowel : Char → Bool) (word : Text) : Option Text :=
  (past? vowel word).bind (past? fun c => !vowel c)

/-- The number of characters in front of a region that is the end of a word; a region that does
not exist begins at the end. -/
def mark (word : Text) (region : Option Text) : Nat :=
  word.length - (region.getD []).length

/-- The first and second region by the vowels of a language. -/
def markSyllables (vowel : Char → Bool) (word : Text) : Nat × Nat :=
  let first := pastSyllable? vowel word
  (mark word first, mark word (first.bind (pastSyllable? vowel)))

/-- The region of the verb endings in Portuguese, Spanish and Italian. After a vowel and a
consonant it follows the next vowel; after two vowels, the next consonant; after two consonants,
the next vowel; and after a consonant and a vowel, the third letter. -/
def romanceRV? (vowel : Char → Bool) : Text → Option Text
  | a :: b :: rest =>
    match vowel a, vowel b with
    | true, false => past? vowel rest
    | true, true => past? (fun c => !vowel c) rest
    | false, false => past? vowel rest
    | false, true => match rest with
      | _ :: rest => some rest
      | [] => none
  | _ => none

/-- The three regions in Portuguese, Spanish and Italian. -/
def romanceRegions (vowel : Char → Bool) (word : Text) : Regions :=
  let (r1, r2) := markSyllables vowel word
  { rv := mark word (romanceRV? vowel word), r1, r2 }

/-! ## Steps -/

/-- Keeps a stem if a condition holds. -/
def keepIf (condition : Bool) (stem : Text) : Option Text :=
  if condition then some stem else none

/-- Takes a further ending off if a condition holds of the stem before it. -/
def alsoDrop (suffix : String) (condition : Text → Bool) (word : Text) : Text :=
  match without? suffix word with
  | some stem => if condition stem then stem else word
  | none => word

/-- Takes the longest of several further endings off if a condition holds of the stem. -/
def alsoDropOne (table : Endings Unit) (condition : Text → Bool) (word : Text) : Text :=
  match longest? table word 0 with
  | some (stem, _) => if condition stem then stem else word
  | none => word

/-- Whether a character is one of a string's. -/
def oneOf (letters : String) (c : Char) : Bool :=
  letters.toList.contains c

end TexCensus.Stem
