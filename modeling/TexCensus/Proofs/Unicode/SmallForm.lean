import TexCensus.Proofs.Unicode.Capitals

/-!
# The small form of a part of a text

Lowercasing looks beyond a character in one case only: a capital sigma becomes `ς` or `σ` by what
stands in front of it and behind it. So the small form of a text is put together from those of its
parts (`lowercasePart_append`), if each part knows where it stands. A part has the small form that
it has on its own exactly if the same sigmas are final in both places
(`lowercasePart_eq_lowercase_iff`).

Lowercasing also keeps apart which characters can stand in words (`lasting_isWord_iff`). Two
capitals are the exception: they are younger than their small letters and than the version of
Unicode that words go by (`isLateCapital`).
-/

namespace TexCensus.Unicode

/-! ## Parts of a text -/

/-- Whether a sigma between two texts ends a word. -/
def isFinalSigma (front behind : Text) : Bool :=
  casedNext front.reverse && !casedNext behind

/-- The small form of a character between two texts. -/
def lowercaseBetween (front behind : Text) (c : Char) : Text :=
  if c = 'Σ' then (if isFinalSigma front behind then ['ς'] else ['σ']) else lowercaseChar c

/-- The small form of a part of a text that stands between two others. -/
def lowercasePart (front behind : Text) : Text → Text
  | [] => []
  | c :: rest =>
    lowercaseBetween front (rest ++ behind) c ++ lowercasePart (front ++ [c]) behind rest

variable {front behind : Text} {c d : Char}

theorem lowercasePart_nil (front behind : Text) : lowercasePart front behind [] = [] := rfl

theorem lowercasePart_cons (front behind : Text) (c : Char) (rest : Text) :
    lowercasePart front behind (c :: rest)
      = lowercaseBetween front (rest ++ behind) c ++ lowercasePart (front ++ [c]) behind rest :=
  rfl

theorem lowercasePart_singleton (front behind : Text) (c : Char) :
    lowercasePart front behind [c] = lowercaseBetween front behind c := by
  rw [lowercasePart_cons, lowercasePart_nil, List.append_nil, List.nil_append]

/-- **The small form of a text is put together from those of its parts.** -/
theorem lowercasePart_append (front behind a b : Text) :
    lowercasePart front behind (a ++ b)
      = lowercasePart front (b ++ behind) a ++ lowercasePart (front ++ a) behind b := by
  induction a generalizing front with
  | nil => simp [lowercasePart_nil]
  | cons c a ih =>
    rw [List.cons_append, lowercasePart_cons, lowercasePart_cons, ih, List.append_assoc,
      List.append_assoc, List.append_assoc, List.singleton_append]

theorem lowercaseAfter_reverse (front t : Text) :
    lowercaseAfter front.reverse [] t = lowercasePart front [] t := by
  induction t generalizing front with
  | nil => rfl
  | cons c t ih =>
    have hnext := ih (front ++ [c])
    rw [List.reverse_append, List.reverse_singleton, List.singleton_append] at hnext
    rw [lowercaseAfter, lowercaseAfter_acc, hnext, lowercasePart_cons, List.append_nil,
      List.append_nil, List.reverse_reverse]
    rfl

theorem lowercase_eq (t : Text) : lowercase t = lowercasePart [] [] t :=
  lowercaseAfter_reverse [] t

/-! ## Parts on their own -/

theorem lowercaseBetween_eq_iff {front' behind' : Text} :
    lowercaseBetween front behind c = lowercaseBetween front' behind' c
      ↔ (c = 'Σ' → isFinalSigma front behind = isFinalSigma front' behind') := by
  unfold lowercaseBetween
  by_cases hc : c = 'Σ'
  · rw [if_pos hc, if_pos hc, forall_prop_of_true hc]
    cases isFinalSigma front behind <;> cases isFinalSigma front' behind' <;> simp
  · simp [hc]

/-- The small form of a character has the same length everywhere. -/
theorem length_lowercaseBetween (front behind : Text) (c : Char) :
    (lowercaseBetween front behind c).length = (lowercaseChar c).length := by
  unfold lowercaseBetween
  split
  · next hc =>
    subst hc
    split <;> decide
  · rfl

/-- **A part has one small form in two places if the same sigmas are final there.** -/
theorem lowercasePart_eq_iff {front' behind' w : Text} :
    lowercasePart front behind w = lowercasePart front' behind' w
      ↔ ∀ x y, w = x ++ 'Σ' :: y
        → isFinalSigma (front ++ x) (y ++ behind) = isFinalSigma (front' ++ x) (y ++ behind') := by
  induction w generalizing front front' with
  | nil => simp [lowercasePart_nil]
  | cons c w ih =>
    have hlength : (lowercaseBetween front (w ++ behind) c).length
        = (lowercaseBetween front' (w ++ behind') c).length := by
      rw [length_lowercaseBetween, length_lowercaseBetween]
    rw [lowercasePart_cons, lowercasePart_cons]
    constructor
    · intro hsame x y hw
      obtain ⟨hfirst, hothers⟩ := List.append_inj hsame hlength
      rw [lowercaseBetween_eq_iff] at hfirst
      rw [ih] at hothers
      cases x with
      | nil =>
        obtain ⟨rfl, rfl⟩ := List.cons.inj hw
        simpa using hfirst rfl
      | cons b x =>
        obtain ⟨rfl, rfl⟩ := List.cons.inj hw
        simpa using hothers x y rfl
    · intro h
      have hfirst : lowercaseBetween front (w ++ behind) c
          = lowercaseBetween front' (w ++ behind') c := by
        rw [lowercaseBetween_eq_iff]
        rintro rfl
        simpa using h [] w rfl
      have hothers : lowercasePart (front ++ [c]) behind w
          = lowercasePart (front' ++ [c]) behind' w := by
        rw [ih]
        intro x y hw
        simpa using h (c :: x) y (congrArg (c :: ·) hw)
      rw [hfirst, hothers]

/-- Whether a part of a text has its final sigmas where it has them on its own. -/
def KeepsSigmas (front behind w : Text) : Prop :=
  ∀ x y, w = x ++ 'Σ' :: y → isFinalSigma (front ++ x) (y ++ behind) = isFinalSigma x y

theorem lowercasePart_eq_lowercase_iff {w : Text} :
    lowercasePart front behind w = lowercase w ↔ KeepsSigmas front behind w := by
  rw [lowercase_eq, lowercasePart_eq_iff, KeepsSigmas]
  simp only [List.nil_append, List.append_nil]

theorem casedNext_append (a b : Text) :
    casedNext (a ++ b) = if a.all isCaseIgnorable then casedNext b else casedNext a := by
  induction a with
  | nil => rfl
  | cons c a ih =>
    rw [List.cons_append, casedNext, ih, casedNext, List.all_cons]
    cases isCaseIgnorable c <;> rfl

/-- A text in which no letter with case comes next changes nothing for what stands in front. -/
theorem casedNext_append_of_eq_false {b : Text} (h : casedNext b = false) (a : Text) :
    casedNext (a ++ b) = casedNext a := by
  rw [casedNext_append]
  split
  · next hall =>
    rw [h, eq_comm]
    have halone := casedNext_append a []
    rwa [List.append_nil, if_pos hall] at halone
  · rfl

/-- **Sigmas stay as they are on their own if no letter with case comes next on either side.** -/
theorem KeepsSigmas.of_casedNext (hfront : casedNext front.reverse = false)
    (hbehind : casedNext behind = false) (w : Text) : KeepsSigmas front behind w := by
  rintro x y -
  rw [isFinalSigma, List.reverse_append, casedNext_append_of_eq_false hfront,
    casedNext_append_of_eq_false hbehind, isFinalSigma]

/-! ## Which characters lowercasing brings in -/

theorem mem_lowercaseBetween (h : d ∈ lowercaseBetween front behind c) :
    d ∈ lowercaseChar c ∨ c = 'Σ' ∧ d = 'ς' := by
  unfold lowercaseBetween at h
  split at h
  · next hc =>
    subst hc
    split at h
    · exact .inr ⟨rfl, List.mem_singleton.1 h⟩
    · rw [List.mem_singleton.1 h]
      exact .inl (by decide)
  · exact .inl h

theorem lowercaseBetween_ne_nil (front behind : Text) (c : Char) :
    lowercaseBetween front behind c ≠ [] := by
  rw [← List.length_pos_iff, length_lowercaseBetween, lowercaseChar]
  split
  · decide
  · split <;> exact Nat.one_pos

theorem lowercasePart_ne_nil {w : Text} (hne : w ≠ []) (front behind : Text) :
    lowercasePart front behind w ≠ [] := by
  obtain ⟨c, w, rfl⟩ := List.exists_cons_of_ne_nil hne
  exact List.append_ne_nil_of_left_ne_nil (lowercaseBetween_ne_nil _ _ _) _

/-- Whether a character keeps a property, or the lack of it, wherever it is lowercased. -/
def Lasting (p : Char → Bool) (c : Char) : Prop :=
  ∀ front behind, ∀ d ∈ lowercaseBetween front behind c, p d = p c

section Lasting

variable {p : Char → Bool} {t : Text}

/-- What lasts in every character of a part lasts in its small form. -/
theorem forall_mem_lowercasePart (h : ∀ c ∈ t, Lasting p c) (hp : ∀ c ∈ t, p c = true)
    (front behind : Text) : ∀ d ∈ lowercasePart front behind t, p d = true := by
  induction t generalizing front with
  | nil => simp [lowercasePart_nil]
  | cons c t ih =>
    rw [List.forall_mem_cons] at h hp
    rw [lowercasePart_cons, List.forall_mem_append]
    refine ⟨fun d hd => ?_, ih h.2 hp.2 (front ++ [c])⟩
    rw [h.1 front (t ++ behind) d hd, hp.1]

theorem head?_lowercasePart (h : ∀ c ∈ t.head?, Lasting p c) (front behind : Text) :
    (lowercasePart front behind t).head?.any p = t.head?.any p := by
  cases t with
  | nil => rfl
  | cons c t =>
    have hne := lowercaseBetween_ne_nil front (t ++ behind) c
    rw [lowercasePart_cons, List.head?_append_of_ne_nil _ hne, List.head?_eq_some_head hne]
    exact h c rfl front (t ++ behind) _ (List.head_mem hne)

theorem getLast?_lowercasePart (h : ∀ c ∈ t.getLast?, Lasting p c) (front behind : Text) :
    (lowercasePart front behind t).getLast?.any p = t.getLast?.any p := by
  rcases List.eq_nil_or_concat' t with rfl | ⟨init, c, rfl⟩
  · rfl
  · have hne := lowercaseBetween_ne_nil (front ++ init) behind c
    rw [lowercasePart_append, lowercasePart_singleton, List.getLast?_append_of_ne_nil _ hne,
      List.getLast?_eq_some_getLast hne, List.getLast?_concat]
    exact h c List.getLast?_concat (front ++ init) behind _ (List.getLast_mem hne)

end Lasting

/-! ## Characters of words and marks -/

set_option maxRecDepth 4000 in
theorem wordOnlyRanges_isChain : wordOnlyRanges.IsChain (·.1 ≤ ·.1) := by decide

/-- The set of the characters of words. -/
def wordSet : Nat :=
  (rangeset alphabeticRanges ^^^ (rangeset alphabeticRanges &&& rangeset lateAlphabeticRanges))
    ||| rangeset wordOnlyRanges

theorem testBit_wordSet (c : Char) : wordSet.testBit c.toNat = isWord c := by
  have hfound {ranges : List (Nat × Nat)} (h : ranges.IsChain (·.1 ≤ ·.1)) :
      (rangeset ranges).testBit c.toNat = inRanges ranges c.toNat := by
    rw [Bool.eq_iff_iff, inRanges_iff h]
  rw [wordSet, Nat.testBit_or, Nat.testBit_xor, Nat.testBit_and, hfound alphabeticRanges_isChain,
    hfound lateAlphabeticRanges_isChain, hfound wordOnlyRanges_isChain, isWord, isAlphabetic]
  cases inRanges alphabeticRanges c.toNat <;>
    cases inRanges lateAlphabeticRanges c.toNat <;> rfl

/-- The capitals that cannot stand in words though their small letters can, with these. -/
def lateCapitals : List (Char × Char) :=
  [('\uA7D2', '\uA7D3'), ('\uA7D4', '\uA7D5')]

/-- Whether a character is one of the late capitals. -/
def isLateCapital (c : Char) : Bool :=
  lateCapitals.any fun pair => c = pair.1

set_option maxRecDepth 8000 in
theorem lateCapitals_small :
    (lateCapitals.all fun pair => lowercaseChar pair.1 = [pair.2] && !isWord pair.1
      && isWord pair.2 && pair.1 ≠ 'Σ') = true := by
  decide

theorem exists_of_isLateCapital (h : isLateCapital c = true) :
    isWord c = false ∧ ∃ d, isWord d = true ∧ d ∈ lowercaseBetween [] [] c := by
  rw [isLateCapital, List.any_eq_true] at h
  obtain ⟨pair, hpair, hc⟩ := h
  obtain rfl := of_decide_eq_true hc
  have hsmall := List.all_eq_true.1 lateCapitals_small pair hpair
  simp only [Bool.and_eq_true, Bool.not_eq_true', decide_eq_true_eq] at hsmall
  obtain ⟨⟨⟨hlower, hcapital⟩, hword⟩, hsigma⟩ := hsmall
  refine ⟨hcapital, pair.2, hword, ?_⟩
  rw [lowercaseBetween, if_neg hsigma, hlower]
  exact List.mem_singleton_self _

/-- Late capitals are not characters of words. -/
theorem isLateCapital_of_isWord (h : isWord c = true) : isLateCapital c = false := by
  rw [← Bool.not_eq_true]
  intro hlate
  rw [(exists_of_isLateCapital hlate).1] at h
  cases h

/-- The marks that keep a run of characters of words from being a token. -/
def tokenMarks : Text :=
  ['\\', '{', '}']

/-- **What the distances keep.** They lead to no mark, and from characters that can stand in words
to others that can, and from those that cannot to others that cannot, but for the late capitals. -/
theorem shifts_keep :
    (caseShifts.all fun s => s.run.members.all fun n =>
      ((n + s.shift).toNat.isValidChar : Bool)
        && !(tokenMarks.map Char.toNat).contains (n + s.shift).toNat
        && ((lateCapitals.any fun pair => n = pair.1.toNat)
          || wordSet.testBit (n + s.shift).toNat == wordSet.testBit n)) = true := by
  decide +kernel

/-- What takes the place of a character is no mark, unless it is the character itself, and can stand
in words exactly if the character can, unless this is a late capital. -/
theorem mem_lowercaseChar_keeps (h : d ∈ lowercaseChar c) :
    (d ∈ tokenMarks → d = c) ∧ (isLateCapital c = false → isWord d = isWord c) := by
  rw [lowercaseChar] at h
  split at h
  · next hdot =>
    subst hdot
    rcases List.mem_pair.1 h with rfl | rfl <;> decide
  · split at h
    · next shift hshift =>
      obtain ⟨s, hs, hn, rfl⟩ := exists_mem_members hshift
      have hkeep := List.all_eq_true.1 (List.all_eq_true.1 shifts_keep s hs) _ hn
      simp only [Char.toNat_inj] at hkeep
      rw [← isLateCapital, Bool.and_eq_true, Bool.and_eq_true, decide_eq_true_eq,
        Bool.not_eq_true', List.contains_eq_mem, decide_eq_false_iff_not] at hkeep
      obtain ⟨⟨hvalid, hmark⟩, hword⟩ := hkeep
      have hsmall : d.toNat = (c.toNat + s.shift).toNat := by
        rw [List.mem_singleton.1 h, toNat_charOfNat, if_pos hvalid]
      refine ⟨fun hd => ?_, fun hlate => ?_⟩
      · exact absurd (hsmall ▸ List.mem_map_of_mem hd) hmark
      · rw [hlate, Bool.false_or, beq_iff_eq] at hword
        rw [← testBit_wordSet, ← testBit_wordSet, hsmall, hword]
    · rw [List.mem_singleton.1 h]
      exact ⟨fun _ => rfl, fun _ => rfl⟩

/-- **Lowercasing keeps what can stand in a word and what cannot.** -/
theorem lasting_isWord (hlate : isLateCapital c = false) : Lasting isWord c := by
  intro front behind d hd
  rcases mem_lowercaseBetween hd with hd | ⟨rfl, rfl⟩
  · exact (mem_lowercaseChar_keeps hd).2 hlate
  · decide

/-- The two late capitals are the only characters for which this is not so. -/
theorem lasting_isWord_iff : Lasting isWord c ↔ isLateCapital c = false := by
  refine ⟨fun h => ?_, lasting_isWord⟩
  rw [← Bool.not_eq_true]
  intro hlate
  obtain ⟨hcapital, d, hword, hd⟩ := exists_of_isLateCapital hlate
  have hsame := h [] [] d hd
  rw [hword, hcapital] at hsame
  cases hsame

theorem tokenMarks_keep :
    (tokenMarks.all fun m => m ≠ 'ς' && m ≠ 'Σ' && lowercaseChar m = [m]) = true := by
  decide

/-- **Lowercasing keeps the marks and brings in no others.** -/
theorem lasting_tokenMark {m : Char} (hm : m ∈ tokenMarks) (c : Char) : Lasting (· == m) c := by
  have hmark := List.all_eq_true.1 tokenMarks_keep m hm
  simp only [Bool.and_eq_true, decide_eq_true_eq] at hmark
  obtain ⟨⟨hfinal, hsigma⟩, hself⟩ := hmark
  intro front behind d hd
  rw [Bool.eq_iff_iff, beq_iff_eq, beq_iff_eq]
  constructor
  · rintro rfl
    rcases mem_lowercaseBetween hd with hd | ⟨-, rfl⟩
    · exact ((mem_lowercaseChar_keeps hd).1 hm).symm
    · exact absurd rfl hfinal
  · rintro rfl
    rw [lowercaseBetween, if_neg hsigma, hself] at hd
    exact List.mem_singleton.1 hd

end TexCensus.Unicode
