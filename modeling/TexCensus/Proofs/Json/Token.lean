import TexCensus.Json.Token

/-!
# Tokens of joined texts

A text that ends where a token ends is lexed by itself: what follows it changes none of its tokens,
unless the following text continues a number. `Json.Token.ofText_append` says so, and the lemmas
before it say the same of each part that a token has.
-/

namespace TexCensus.Json

/-- A computation succeeds when its first step does and then the others do. -/
theorem bind_eq_ok_iff {ε α β : Type} {x : Except ε α} {f : α → Except ε β} {b : β} :
    x >>= f = .ok b ↔ ∃ a, x = .ok a ∧ f a = .ok b := by
  cases x with
  | error e => simp [bind, Except.bind]
  | ok a => simp [bind, Except.bind]

/-! ## Numbers -/

/-- Whether a character behind digits may belong to their number. -/
def continuesNumber (c : Char) : Bool :=
  c.isDigit || c = '.' || c = 'e' || c = 'E'

/-- A number in front of the text ends there. -/
def EndsNumber (t : Text) : Prop :=
  ∀ c ∈ t.head?, continuesNumber c = false

theorem EndsNumber.nil : EndsNumber [] := by
  intro c hc
  cases hc

theorem EndsNumber.cons {c : Char} {t : Text} (h : continuesNumber c = false) :
    EndsNumber (c :: t) := by
  intro d hd
  cases hd
  exact h

variable {t rest left digits fraction : Text}

theorem isDigit_of_endsNumber {c : Char} (h : EndsNumber (c :: rest)) : c.isDigit = false := by
  have hc := h c rfl
  simp only [continuesNumber, Bool.or_eq_false_iff] at hc
  exact hc.1.1.1

/-- Digits end where a number ends. -/
theorem takeWhile_append_of_endsNumber (h : EndsNumber rest) :
    (t ++ rest).takeWhile Char.isDigit = t.takeWhile Char.isDigit
      ∧ (t ++ rest).dropWhile Char.isDigit = t.dropWhile Char.isDigit ++ rest := by
  induction t with
  | nil =>
    cases rest with
    | nil => exact ⟨rfl, rfl⟩
    | cons c rest => simp [isDigit_of_endsNumber h]
  | cons d t ih => cases hd : d.isDigit <;> simp [hd, ih.1, ih.2]

theorem leadingDigits_eq_ok_iff :
    leadingDigits t = .ok (digits, left) ↔
      t.takeWhile Char.isDigit = digits ∧ t.dropWhile Char.isDigit = left ∧ digits ≠ [] := by
  unfold leadingDigits
  cases t.takeWhile Char.isDigit with
  | nil =>
    simp only [reduceCtorEq, false_iff]
    rintro ⟨rfl, -, hne⟩
    exact hne rfl
  | cons d ds =>
    simp only [Except.ok.injEq, Prod.mk.injEq]
    constructor
    · rintro ⟨rfl, rfl⟩
      exact ⟨rfl, rfl, List.cons_ne_nil _ _⟩
    · rintro ⟨rfl, rfl, -⟩
      exact ⟨rfl, rfl⟩

theorem leadingDigits_append (h : leadingDigits t = .ok (digits, left)) (hrest : EndsNumber rest) :
    leadingDigits (t ++ rest) = .ok (digits, left ++ rest) := by
  obtain ⟨hdigits, hleft, hne⟩ := leadingDigits_eq_ok_iff.1 h
  obtain ⟨htake, hdrop⟩ := takeWhile_append_of_endsNumber (t := t) hrest
  exact leadingDigits_eq_ok_iff.2 ⟨htake.trans hdigits, by rw [hdrop, hleft], hne⟩

theorem append_of_leadingDigits (h : leadingDigits t = .ok (digits, left)) :
    digits ++ left = t := by
  obtain ⟨rfl, rfl, -⟩ := leadingDigits_eq_ok_iff.1 h
  exact List.takeWhile_append_dropWhile

theorem leadingFraction_of_ne {c : Char} (h : c ≠ '.') :
    leadingFraction (c :: t) = .ok ([], c :: t) := by
  unfold leadingFraction
  split
  · next heq => cases heq; exact absurd rfl h
  · rfl

theorem leadingFraction_append (h : leadingFraction t = .ok (fraction, left))
    (hrest : EndsNumber rest) : leadingFraction (t ++ rest) = .ok (fraction, left ++ rest) := by
  cases t with
  | nil =>
    cases h
    cases rest with
    | nil => rfl
    | cons c rest =>
      refine leadingFraction_of_ne ?_
      rintro rfl
      exact absurd (hrest _ rfl) (by decide)
  | cons c t =>
    by_cases hc : c = '.'
    · subst hc
      exact leadingDigits_append h hrest
    · rw [leadingFraction_of_ne hc] at h
      cases h
      exact leadingFraction_of_ne hc

theorem append_of_leadingFraction (h : leadingFraction t = .ok (fraction, left)) :
    (if fraction.isEmpty then [] else '.' :: fraction) ++ left = t := by
  unfold leadingFraction at h
  split at h
  · obtain ⟨-, -, hne⟩ := leadingDigits_eq_ok_iff.1 h
    rw [if_neg (by rwa [List.isEmpty_iff]), List.cons_append, append_of_leadingDigits h]
  · cases h
    rfl

theorem leadingSign_append (h : t ≠ []) :
    leadingSign (t ++ rest) = ((leadingSign t).1, (leadingSign t).2 ++ rest) := by
  match t with
  | c :: t =>
    rw [List.cons_append]
    by_cases hplus : c = '+'
    · subst hplus
      rfl
    · by_cases hminus : c = '-'
      · subst hminus
        rfl
      · have hnone (u : Text) : leadingSign (c :: u) = (none, c :: u) := by
          unfold leadingSign
          split
          · next heq => cases heq; exact absurd rfl hplus
          · next heq => cases heq; exact absurd rfl hminus
          · rfl
        rw [hnone, hnone]
        rfl

theorem append_of_leadingSign : (leadingSign t).1.toList ++ (leadingSign t).2 = t := by
  unfold leadingSign
  split <;> rfl

/-- An exponent, told apart by its mark. -/
theorem leadingExponent_cons {mark : Char} (hmark : mark = 'e' ∨ mark = 'E') :
    leadingExponent (mark :: t) = (leadingDigits (leadingSign t).2).map fun (digits, rest) =>
      (some { mark, sign := (leadingSign t).1, digits }, rest) := by
  have h : (decide (mark = 'e') || decide (mark = 'E')) = true := by simpa using hmark
  unfold leadingExponent
  simp only [h, if_true]
  cases leadingDigits (leadingSign t).2 <;> rfl

theorem leadingExponent_cons_of_not {c : Char} (hc : ¬(c = 'e' ∨ c = 'E')) :
    leadingExponent (c :: t) = .ok (none, c :: t) := by
  have h : ¬(decide (c = 'e') || decide (c = 'E')) = true := by simpa using hc
  unfold leadingExponent
  exact if_neg h

theorem leadingExponent_append {exponent : Option Exponent}
    (h : leadingExponent t = .ok (exponent, left)) (hrest : EndsNumber rest) :
    leadingExponent (t ++ rest) = .ok (exponent, left ++ rest) := by
  cases t with
  | nil =>
    cases h
    cases rest with
    | nil => rfl
    | cons c rest =>
      refine leadingExponent_cons_of_not ?_
      rintro (rfl | rfl) <;> exact absurd (hrest _ rfl) (by decide)
  | cons mark t =>
    rw [List.cons_append]
    by_cases hmark : mark = 'e' ∨ mark = 'E'
    · rw [leadingExponent_cons hmark] at h ⊢
      cases hdigits : leadingDigits (leadingSign t).2 with
      | error fault => rw [hdigits] at h; cases h
      | ok r =>
        rw [hdigits] at h
        cases h
        have hne : t ≠ [] := by
          rintro rfl
          cases hdigits
        rw [leadingSign_append hne, leadingDigits_append hdigits hrest]
        rfl
    · rw [leadingExponent_cons_of_not hmark] at h ⊢
      cases h
      rfl

theorem append_of_leadingExponent {exponent : Option Exponent}
    (h : leadingExponent t = .ok (exponent, left)) :
    exponent.elim [] Exponent.spelling ++ left = t := by
  cases t with
  | nil =>
    cases h
    rfl
  | cons mark t =>
    by_cases hmark : mark = 'e' ∨ mark = 'E'
    · rw [leadingExponent_cons hmark] at h
      cases hdigits : leadingDigits (leadingSign t).2 with
      | error fault => rw [hdigits] at h; cases h
      | ok r =>
        rw [hdigits] at h
        cases h
        show mark :: ((leadingSign t).1.toList ++ r.1) ++ r.2 = _
        rw [List.cons_append, List.append_assoc, append_of_leadingDigits hdigits,
          append_of_leadingSign]
    · rw [leadingExponent_cons_of_not hmark] at h
      cases h
      rfl

/-- The parts of a number are found one behind another. -/
theorem Numeral.ofText_eq_ok_iff {n : Numeral} :
    Numeral.ofText t = .ok (n, left) ↔
      n.negative = decide (t.head? = some '-')
        ∧ ¬(n.whole.head? = some '0' ∧ n.whole.length ≠ 1)
        ∧ ∃ behindWhole behindFraction,
          leadingDigits (if n.negative then t.drop 1 else t) = .ok (n.whole, behindWhole)
            ∧ leadingFraction behindWhole = .ok (n.fraction, behindFraction)
            ∧ leadingExponent behindFraction = .ok (n.exponent, left) := by
  unfold Numeral.ofText
  simp only [bind_eq_ok_iff]
  constructor
  · rintro ⟨⟨whole, behindWhole⟩, hwhole, h⟩
    split at h
    · cases h
    · next hzero =>
      simp only [bind_eq_ok_iff] at h
      obtain ⟨⟨fraction, behindFraction⟩, hfraction, ⟨exponent, left⟩, hexponent, h⟩ := h
      cases h
      exact ⟨rfl, by simpa using hzero, behindWhole, behindFraction, by simpa using hwhole,
        hfraction, hexponent⟩
  · obtain ⟨negative, whole, fraction, exponent⟩ := n
    rintro ⟨rfl, hzero, behindWhole, behindFraction, hwhole, hfraction, hexponent⟩
    refine ⟨(whole, behindWhole), by simpa using hwhole, ?_⟩
    rw [if_neg (by simpa using hzero)]
    simp only [bind_eq_ok_iff]
    exact ⟨_, hfraction, _, hexponent, rfl⟩

/-- **What follows a number does not change it.** -/
theorem Numeral.ofText_append {n : Numeral} (h : Numeral.ofText t = .ok (n, left))
    (hrest : EndsNumber rest) : Numeral.ofText (t ++ rest) = .ok (n, left ++ rest) := by
  obtain ⟨hnegative, hzero, behindWhole, behindFraction, hwhole, hfraction, hexponent⟩ :=
    Numeral.ofText_eq_ok_iff.1 h
  have hne : t ≠ [] := by
    rintro rfl
    rw [hnegative] at hwhole
    cases hwhole
  have hbegin : (if n.negative then (t ++ rest).drop 1 else t ++ rest)
      = (if n.negative then t.drop 1 else t) ++ rest := by
    split
    · exact List.drop_append_of_le_length (List.length_pos_iff.2 hne)
    · rfl
  refine Numeral.ofText_eq_ok_iff.2 ⟨?_, hzero, behindWhole ++ rest, behindFraction ++ rest, ?_,
    leadingFraction_append hfraction hrest, leadingExponent_append hexponent hrest⟩
  · rw [List.head?_append, hnegative, Option.or_of_isSome (by simpa using hne)]
  · rw [hbegin]
    exact leadingDigits_append hwhole hrest

/-- A number is made of the characters that were read. -/
theorem Numeral.spelling_append {n : Numeral} (h : Numeral.ofText t = .ok (n, left)) :
    n.spelling ++ left = t := by
  obtain ⟨hnegative, -, behindWhole, behindFraction, hwhole, hfraction, hexponent⟩ :=
    Numeral.ofText_eq_ok_iff.1 h
  have hsign : (if n.negative then ['-'] else []) ++ (if n.negative then t.drop 1 else t) = t := by
    rw [hnegative]
    cases t with
    | nil => rfl
    | cons c t =>
      by_cases hc : c = '-'
      · subst hc
        rfl
      · simp [hc]
  unfold Numeral.spelling
  rw [List.append_assoc, append_of_leadingExponent hexponent, List.append_assoc,
    append_of_leadingFraction hfraction, List.append_assoc, append_of_leadingDigits hwhole, hsign]

namespace Token

/-! ## Quoted texts -/

variable {acc : Text} {used n : Nat}

theorem fourDigits_append (rest : Text) (h : fourDigits t = .ok n) :
    fourDigits (t ++ rest) = .ok n ∧ 4 ≤ t.length := by
  unfold fourDigits at h
  split at h
  · exact ⟨h, by simp⟩
  · dsimp only at h
    split at h <;> cases h

theorem namedChar_append {r : Char × Nat} (rest : Text) (h : namedChar t = .ok r) :
    namedChar (t ++ rest) = .ok r ∧ r.2 ≤ t.length := by
  unfold namedChar at h ⊢
  simp only [bind_eq_ok_iff] at h ⊢
  obtain ⟨high, hhigh, h⟩ := h
  obtain ⟨hsame, hlength⟩ := fourDigits_append rest hhigh
  rw [List.drop_append_of_le_length hlength]
  split at h
  · cases h
  · next hlow =>
    -- Either four digits name the character, or the second half has to follow in the same text.
    split at h
    · next hone =>
      cases h
      refine ⟨⟨high, hsame, ?_⟩, hlength⟩
      rw [if_neg hlow, if_pos hone]
      rfl
    · next hone =>
      split at h
      · cases h
      · cases h
      · next behind hbehind =>
        obtain ⟨low, hlow', h⟩ := bind_eq_ok_iff.1 h
        obtain ⟨hsame', hlength'⟩ := fourDigits_append rest hlow'
        refine ⟨⟨high, hsame, ?_⟩, ?_⟩
        · rw [if_neg hlow, if_neg hone, hbehind]
          exact bind_eq_ok_iff.2 ⟨low, hsame', h⟩
        · have := congrArg List.length hbehind
          simp only [List.length_drop, List.length_cons] at this
          split at h
          · cases h
          · have hused : 10 = r.2 := congrArg Prod.snd (Except.ok.inj h)
            omega
      · cases h

theorem escaped_append {r : Char × Nat} (rest : Text) (h : escaped t = .ok r) :
    escaped (t ++ rest) = .ok r ∧ r.2 ≤ t.length := by
  cases t with
  | nil => cases h
  | cons c t =>
    rw [List.cons_append]
    unfold escaped at h ⊢
    by_cases hc : c = 'u'
    · simp only [hc, if_true] at h ⊢
      cases hnamed : namedChar t with
      | error fault => rw [hnamed] at h; cases h
      | ok named =>
        rw [hnamed] at h
        cases h
        obtain ⟨hsame, hlength⟩ := namedChar_append rest hnamed
        rw [hsame]
        exact ⟨rfl, Nat.succ_le_succ hlength⟩
    · simp only [hc, if_false] at h ⊢
      split at h
      · cases h
        exact ⟨rfl, Nat.succ_le_succ (Nat.zero_le _)⟩
      · cases h

theorem quotedOnto_quote : quotedOnto acc used ('"' :: t) = .ok (acc.reverse, used + 1) := by
  rw [quotedOnto, if_pos rfl]

theorem quotedOnto_escape {meant : Char} (h : escaped t = .ok (meant, n)) :
    quotedOnto acc used ('\\' :: t) = quotedOnto (meant :: acc) (used + 1 + n) (t.drop n) := by
  rw [quotedOnto, if_neg (by decide), if_pos rfl]
  simp only [h]

/-- A character that may stand in quotes as it is. -/
theorem quotedOnto_plain {c : Char} (hquote : c ≠ '"') (hescape : c ≠ '\\') (hcontrol : ¬c < ' ') :
    quotedOnto acc used (c :: t) = quotedOnto (c :: acc) (used + 1) t := by
  rw [quotedOnto, if_neg hquote, if_neg hescape, if_neg hcontrol]

/-- **What follows a closing quote does not change what stands before it.** -/
theorem quotedOnto_append {r : Text × Nat} (rest : Text) (h : quotedOnto acc used t = .ok r) :
    quotedOnto acc used (t ++ rest) = .ok r ∧ r.2 ≤ used + t.length := by
  fun_induction quotedOnto acc used t with
  | case1 => cases h
  | case2 acc used t =>
    cases h
    rw [List.cons_append, quotedOnto_quote, List.length_cons]
    exact ⟨rfl, by omega⟩
  | case3 acc used t meant n hmeant _ ih =>
    obtain ⟨hsame, hlength⟩ := escaped_append rest hmeant
    obtain ⟨hr, hused⟩ := ih h
    rw [List.cons_append, quotedOnto_escape hsame, List.drop_append_of_le_length hlength]
    refine ⟨hr, ?_⟩
    rw [List.length_drop] at hused
    rw [List.length_cons]
    omega
  | case4 => cases h
  | case5 => cases h
  | case6 acc used c t hquote hescape hcontrol ih =>
    obtain ⟨hr, hused⟩ := ih h
    rw [List.cons_append, quotedOnto_plain hquote hescape hcontrol, List.length_cons]
    exact ⟨hr, by omega⟩

/-! ## One value -/

variable {token : Token} {c : Char}

theorem keyword_append {v : Value} {expected : Text}
    (h : keyword v expected t = .ok (token, used)) :
    keyword v expected (t ++ rest) = .ok (token, used) ∧ used ≤ t.length := by
  unfold keyword at h ⊢
  split at h
  · next hstart =>
    cases h
    rw [List.isPrefixOf_iff_prefix] at hstart
    rw [if_pos (List.isPrefixOf_iff_prefix.2 (hstart.trans (List.prefix_append _ _)))]
    exact ⟨rfl, hstart.length_le⟩
  · split at h <;> cases h

theorem numberAt_append (h : numberAt c t = .ok (token, used)) (hrest : EndsNumber rest) :
    numberAt c (t ++ rest) = .ok (token, used) ∧ used ≤ t.length := by
  unfold numberAt at h ⊢
  simp only [bind_eq_ok_iff] at h ⊢
  obtain ⟨⟨numeral, left⟩, hnumeral, h⟩ := h
  have hlength := congrArg List.length (Numeral.spelling_append hnumeral)
  rw [List.length_append, List.length_cons] at hlength
  refine ⟨⟨(numeral, left ++ rest), Numeral.ofText_append hnumeral hrest, h⟩, ?_⟩
  dsimp only at h
  split at h
  · cases h
    omega
  · cases h

/-- **What follows a value does not change it**, unless the value is a number that goes on. -/
theorem valueAt_append (h : valueAt c t = .ok (token, used)) (hrest : EndsNumber rest) :
    valueAt c (t ++ rest) = .ok (token, used) ∧ used ≤ t.length := by
  unfold valueAt at h ⊢
  by_cases hquote : c = '"'
  · rw [if_pos hquote] at h ⊢
    cases hquoted : quotedOnto [] 0 t with
    | error fault => rw [hquoted] at h; cases h
    | ok r =>
      rw [hquoted] at h
      cases h
      obtain ⟨hsame, hused⟩ := quotedOnto_append rest hquoted
      rw [hsame]
      exact ⟨rfl, by rwa [Nat.zero_add] at hused⟩
  rw [if_neg hquote] at h ⊢
  by_cases hnull : c = 'n'
  · rw [if_pos hnull] at h ⊢
    exact keyword_append h
  rw [if_neg hnull] at h ⊢
  by_cases htrue : c = 't'
  · rw [if_pos htrue] at h ⊢
    exact keyword_append h
  rw [if_neg htrue] at h ⊢
  by_cases hfalse : c = 'f'
  · rw [if_pos hfalse] at h ⊢
    exact keyword_append h
  rw [if_neg hfalse] at h ⊢
  split at h
  · next hnumber =>
    rw [if_pos hnumber]
    exact numberAt_append h hrest
  · cases h

/-! ## All tokens -/

/-- Whether a token is no fault. -/
def isSound : Token → Bool
  | broken _ _ => false
  | _ => true

theorem tokensOnto_eq (acc : List Token) (t : Text) :
    tokensOnto acc t = acc.reverse ++ ofText t := by
  unfold ofText
  induction h : t.length using Nat.strongRecOn generalizing acc t with
  | _ size ih =>
    cases t with
    | nil => simp [tokensOnto]
    | cons c t =>
      rw [List.length_cons] at h
      have hdrop (used : Nat) : (t.drop used).length < size := by
        rw [List.length_drop]
        omega
      rw [tokensOnto, tokensOnto]
      split
      · exact ih _ (by omega) acc t rfl
      · split
        · next token _ =>
          rw [ih _ (by omega) (token :: acc) t rfl, ih _ (by omega) [token] t rfl]
          simp
        · split
          · next token used _ =>
            rw [ih _ (hdrop used) (token :: acc) _ rfl, ih _ (hdrop used) [token] _ rfl]
            simp
          · simp

@[simp] theorem ofText_nil : ofText [] = [] := by
  simp [ofText, tokensOnto]

theorem ofText_blank (h : isBlank c = true) : ofText (c :: t) = ofText t := by
  rw [ofText, tokensOnto, if_pos h]
  rfl

theorem ofText_punctuation (hblank : isBlank c = false) (h : punctuation? c = some token) :
    ofText (c :: t) = token :: ofText t := by
  rw [ofText, tokensOnto, if_neg (by simp [hblank])]
  simp only [h, tokensOnto_eq]
  rfl

theorem ofText_value (hblank : isBlank c = false) (hpunctuation : punctuation? c = none)
    (h : valueAt c t = .ok (token, used)) : ofText (c :: t) = token :: ofText (t.drop used) := by
  rw [ofText, tokensOnto, if_neg (by simp [hblank])]
  simp only [hpunctuation, h, tokensOnto_eq]
  rfl

theorem ofText_fault {fault : Fault} (hblank : isBlank c = false)
    (hpunctuation : punctuation? c = none) (h : valueAt c t = .error fault) :
    ofText (c :: t) = [broken (c == '"') fault] := by
  rw [ofText, tokensOnto, if_neg (by simp [hblank])]
  simp only [hpunctuation, h]
  rfl

/-- No token of the text is a fault. -/
def Sound (t : Text) : Prop :=
  ∀ token ∈ ofText t, token.isSound = true

/-- **Texts without faults are lexed one after another**, unless a number at the end of the first
goes on in the second. -/
theorem ofText_append (h : Sound t) (hrest : EndsNumber rest) :
    ofText (t ++ rest) = ofText t ++ ofText rest := by
  -- A value takes as many characters as it likes, so the induction is on the length.
  induction hsize : t.length using Nat.strongRecOn generalizing t with
  | _ size ih =>
    cases t with
    | nil => rw [ofText_nil, List.nil_append, List.nil_append]
    | cons c t =>
      rw [List.length_cons] at hsize
      rw [List.cons_append]
      cases hblank : isBlank c with
      | true =>
        have hsound : Sound t := by rwa [Sound, ofText_blank hblank] at h
        rw [ofText_blank hblank, ofText_blank hblank, ih _ (by omega) hsound rfl]
      | false =>
        cases hpunctuation : punctuation? c with
        | some token =>
          rw [Sound, ofText_punctuation hblank hpunctuation] at h
          rw [ofText_punctuation hblank hpunctuation, ofText_punctuation hblank hpunctuation,
            ih _ (by omega) (fun token hmem => h token (List.mem_cons_of_mem _ hmem)) rfl,
            List.cons_append]
        | none =>
          cases hvalue : valueAt c t with
          | error fault =>
            rw [Sound, ofText_fault hblank hpunctuation hvalue] at h
            cases h _ (List.mem_singleton_self _)
          | ok r =>
            obtain ⟨hsame, hused⟩ := valueAt_append hvalue hrest
            rw [Sound, ofText_value hblank hpunctuation hvalue] at h
            have hlt : (t.drop r.2).length < size := by
              rw [List.length_drop]
              omega
            rw [ofText_value hblank hpunctuation hvalue, ofText_value hblank hpunctuation hsame,
              List.drop_append_of_le_length hused,
              ih _ hlt (fun token hmem => h token (List.mem_cons_of_mem _ hmem)) rfl,
              List.cons_append]

end Token

end TexCensus.Json
