import TexCensus.Proofs.Record.Counted
import TexCensus.Proofs.Unicode.SmallForm
import TexCensus.Proofs.Words.Vocabulary

/-!
# Tokens in lower case

The tokens are those of the lowercased text. Lowercasing moves no end of a run and no mark, so
these are the tokens of the text itself, each in the small form that it has at its place
(`tokens_eq_map`). Two late capitals have to be kept out: they end a run, and their small letters
do not.
-/

namespace TexCensus

open Pattern Segment Unicode

/-! ## The tokens in the rest of a text -/

/-- Whether no mark keeps a run between two texts from being a token. -/
def isUnmarked (front behind : Text) : Bool :=
  !front.getLast?.any (· == '\\') && !front.getLast?.any (· == '{')
    && !behind.head?.any (· == '}')

/-- The tokens in the rest of a text with the places where they begin. -/
def placesAfter (front rest : Text) : List (Nat × Text) :=
  (placed front.length (wordRun.segments rest)).filter (isFree (front ++ rest))

theorem tokenPlaces_eq (t : Text) : tokenPlaces t = placesAfter [] t := rfl

theorem placesAfter_nil (front : Text) : placesAfter front [] = [] := by
  simp [placesAfter, placed]

theorem isUnmarked_iff {front behind : Text} :
    isUnmarked front behind = true
      ↔ front.getLast? ≠ some '\\' ∧ front.getLast? ≠ some '{' ∧ behind.head? ≠ some '}' := by
  have hany (o : Option Char) (m : Char) : o.any (· == m) = false ↔ o ≠ some m := by
    cases o <;> simp
  rw [isUnmarked, Bool.and_eq_true, Bool.and_eq_true, Bool.not_eq_true', Bool.not_eq_true',
    Bool.not_eq_true', hany, hany, hany, and_assoc]

theorem isFree_eq (front run behind : Text) :
    isFree (front ++ (run ++ behind)) (front.length, run) = isUnmarked front behind := by
  rw [Bool.eq_iff_iff, isFree_iff (List.append_assoc ..).symm, isUnmarked_iff]

theorem placesAfter_append {a : Text} (ha : ∀ c ∈ a, isWord c = false) (front rest : Text) :
    placesAfter front (a ++ rest) = placesAfter (front ++ a) rest := by
  induction a generalizing front with
  | nil => rw [List.nil_append, List.append_nil]
  | cons c a ih =>
    rw [List.forall_mem_cons] at ha
    have hnext := ih ha.2 (front ++ [c])
    rw [List.append_assoc, List.singleton_append] at hnext
    rw [← hnext, placesAfter, placesAfter, List.cons_append, segments_wordRun_kept ha.1, placed,
      List.length_append, List.append_assoc]
    rfl

theorem placesAfter_run {w : Text} (hne : w ≠ []) (hw : ∀ c ∈ w, isWord c = true)
    {rest : Text} (hrest : beginsWord rest = false) (front : Text) :
    placesAfter front (w ++ rest)
      = if isUnmarked front rest then (front.length, w) :: placesAfter (front ++ w) rest
        else placesAfter (front ++ w) rest := by
  rw [placesAfter, segments_wordRun_hit hne hw hrest, placed, List.filter_cons, isFree_eq,
    placesAfter, List.length_append, List.append_assoc]

/-! ## The tokens of the lowercased text -/

variable {front rest : Text}

theorem isUnmarked_lowercasePart (before after before' after' : Text) :
    isUnmarked (lowercasePart before after front) (lowercasePart before' after' rest)
      = isUnmarked front rest := by
  have hmark {m : Char} (hm : m ∈ tokenMarks) (c : Char) := lasting_tokenMark hm c
  rw [isUnmarked, getLast?_lowercasePart fun c _ => hmark (by decide) c,
    getLast?_lowercasePart fun c _ => hmark (by decide) c,
    head?_lowercasePart fun c _ => hmark (by decide) c, isUnmarked]

/-- A run of characters of words stays one. -/
theorem isWord_lowercasePart {w : Text} (hw : ∀ c ∈ w, isWord c = true) (front behind : Text) :
    ∀ c ∈ lowercasePart front behind w, isWord c = true :=
  forall_mem_lowercasePart (fun c hc => lasting_isWord (isLateCapital_of_isWord (hw c hc))) hw
    front behind

/-- The place and the small form that a token of a text has in the lowercased text. -/
def lowercasedPlace (t : Text) (place : Nat × Text) : Nat × Text :=
  ((lowercasePart [] (t.drop place.1) (t.take place.1)).length,
    lowercasePart (t.take place.1) (t.drop (place.1 + place.2.length)) place.2)

theorem lowercasedPlace_append (front w rest : Text) :
    lowercasedPlace (front ++ (w ++ rest)) (front.length, w)
      = ((lowercasePart [] (w ++ rest) front).length, lowercasePart front rest w) := by
  have hrest : (front ++ (w ++ rest)).drop (front.length + w.length) = rest := by
    rw [← List.append_assoc, ← List.length_append, List.drop_left]
  rw [lowercasedPlace, List.take_left, List.drop_left, hrest]

/-- What is in front of the rest grows by the small form of what is taken off the rest. -/
theorem lowercasePart_front (front w rest : Text) :
    lowercasePart [] (w ++ rest) front ++ lowercasePart front rest w
      = lowercasePart [] rest (front ++ w) := by
  rw [lowercasePart_append, List.nil_append]

/-- The step of the search over a character that is not of words. -/
theorem placesAfter_lowercasePart_cons {c : Char} (hlate : isLateCapital c = false)
    (hc : isWord c = false) (front rest : Text) :
    placesAfter (lowercasePart [] (c :: rest) front) (lowercasePart front [] (c :: rest))
      = placesAfter (lowercasePart [] rest (front ++ [c]))
          (lowercasePart (front ++ [c]) [] rest) := by
  have hkept : ∀ d ∈ lowercasePart front rest [c], isWord d = false := by
    rw [lowercasePart_singleton]
    exact fun d hd => (lasting_isWord hlate front rest d hd).trans hc
  rw [← List.singleton_append, lowercasePart_append front, List.append_nil,
    placesAfter_append hkept, lowercasePart_front]

/-- The step of the search over a run. -/
theorem placesAfter_lowercasePart_append {w : Text} (hne : w ≠ [])
    (hw : ∀ c ∈ w, isWord c = true) (hrest : beginsWord rest = false)
    (hlate : ∀ c ∈ rest, isLateCapital c = false) (front : Text) :
    placesAfter (lowercasePart [] (w ++ rest) front) (lowercasePart front [] (w ++ rest))
      = if isUnmarked front rest then
          lowercasedPlace (front ++ (w ++ rest)) (front.length, w)
            :: placesAfter (lowercasePart [] rest (front ++ w)) (lowercasePart (front ++ w) [] rest)
        else
          placesAfter (lowercasePart [] rest (front ++ w))
            (lowercasePart (front ++ w) [] rest) := by
  have hends : beginsWord (lowercasePart (front ++ w) [] rest) = false := by
    rw [beginsWord, head?_lowercasePart, ← beginsWord, hrest]
    exact fun c hc => lasting_isWord (hlate c (List.mem_of_mem_head? hc))
  rw [lowercasePart_append front, List.append_nil,
    placesAfter_run (lowercasePart_ne_nil hne _ _) (isWord_lowercasePart hw _ _) hends,
    isUnmarked_lowercasePart, lowercasePart_front, lowercasedPlace_append]

/-- **Lowercasing keeps the tokens in the rest of a text.** -/
theorem placesAfter_lowercasePart (h : ∀ c ∈ rest, isLateCapital c = false) (front : Text) :
    placesAfter (lowercasePart [] rest front) (lowercasePart front [] rest)
      = (placesAfter front rest).map (lowercasedPlace (front ++ rest)) := by
  -- The rest gets shorter by what the search walks over in one step.
  induction hsize : rest.length using Nat.strongRecOn generalizing front rest with
  | _ size ih =>
    cases rest with
    | nil => simp [lowercasePart_nil, placesAfter_nil]
    | cons c rest =>
      rw [List.length_cons] at hsize
      by_cases hc : isWord c = true
      · obtain ⟨w, r, hsplit, hne, hw, hr⟩ := exists_run_in_front hc rest
        have hlength : w.length + r.length = rest.length + 1 := by
          rw [← List.length_append, ← hsplit, List.length_cons]
        have hwpos := List.length_pos_of_ne_nil hne
        rw [hsplit] at h ⊢
        rw [List.forall_mem_append] at h
        rw [placesAfter_lowercasePart_append hne hw hr h.2, placesAfter_run hne hw hr,
          ih r.length (by omega) h.2 (front ++ w) rfl, List.append_assoc]
        split <;> rfl
      · rw [Bool.not_eq_true] at hc
        rw [List.forall_mem_cons] at h
        have hnext := placesAfter_append (List.forall_mem_singleton.2 hc) front rest
        rw [List.singleton_append] at hnext
        rw [placesAfter_lowercasePart_cons h.1 hc, hnext,
          ih rest.length (by omega) h.2 (front ++ [c]) rfl, List.append_assoc,
          List.singleton_append]

variable {t : Text}

theorem tokenPlaces_lowercase (h : ∀ c ∈ t, isLateCapital c = false) :
    tokenPlaces (lowercase t) = (tokenPlaces t).map (lowercasedPlace t) := by
  rw [lowercase_eq, tokenPlaces_eq, tokenPlaces_eq]
  exact placesAfter_lowercasePart h []

/-- **The tokens of a text are those of its own case, lowercased where they stand.** -/
theorem tokens_eq_map (h : ∀ c ∈ t, isLateCapital c = false) :
    tokens t = (tokenPlaces t).map fun place => (lowercasedPlace t place).2 := by
  rw [tokens, rawTokens_eq, tokenPlaces_lowercase h, List.map_map]
  rfl

/-! ## One token -/

section Token

variable {before w after : Text}

/-- **Lowercasing keeps a token that no late capital stands next to.** -/
theorem IsToken.lowercasePart (h : IsToken before w after)
    (hbefore : ∀ c ∈ before.getLast?, isLateCapital c = false)
    (hafter : ∀ c ∈ after.head?, isLateCapital c = false) :
    IsToken (Unicode.lowercasePart [] (w ++ after) before) (Unicode.lowercasePart before after w)
      (Unicode.lowercasePart (before ++ w) [] after) := by
  have hunmarked : isUnmarked (Unicode.lowercasePart [] (w ++ after) before)
      (Unicode.lowercasePart (before ++ w) [] after) = true := by
    rw [isUnmarked_lowercasePart]
    exact isUnmarked_iff.2 ⟨h.not_command, h.not_opened, h.not_closed⟩
  rw [isUnmarked_iff] at hunmarked
  refine ⟨⟨lowercasePart_ne_nil h.ne_nil _ _, isWord_lowercasePart h.isWord _ _, ?_, ?_⟩,
    hunmarked.1, hunmarked.2.1, hunmarked.2.2⟩
  · rw [endsWord, getLast?_lowercasePart fun c hc => lasting_isWord (hbefore c hc)]
    exact h.starts
  · rw [beginsWord, head?_lowercasePart fun c hc => lasting_isWord (hafter c hc)]
    exact h.ends

theorem lowercase_split (before w after : Text) :
    lowercase (before ++ w ++ after)
      = Unicode.lowercasePart [] (w ++ after) before ++ Unicode.lowercasePart before after w
        ++ Unicode.lowercasePart (before ++ w) [] after := by
  rw [lowercase_eq, lowercasePart_append, lowercasePart_append, List.append_nil, List.nil_append,
    List.nil_append]

theorem IsToken.mem_rawTokens (h : IsToken before w after) (ht : t = before ++ w ++ after) :
    w ∈ rawTokens t := by
  rw [rawTokens_eq]
  exact List.mem_map_of_mem (mem_tokenPlaces_iff.2 ⟨before, after, ht, rfl, h⟩)

theorem IsToken.mem_tokens (h : IsToken before w after) (ht : t = before ++ w ++ after)
    (hbefore : ∀ c ∈ before.getLast?, isLateCapital c = false)
    (hafter : ∀ c ∈ after.head?, isLateCapital c = false) :
    Unicode.lowercasePart before after w ∈ tokens t := by
  refine (h.lowercasePart hbefore hafter).mem_rawTokens ?_
  rw [ht, lowercase_split]

/-- Each token has its own small form if it does where it stands. -/
theorem tokens_eq_map_lowercase_iff (h : ∀ c ∈ t, isLateCapital c = false) :
    tokens t = (rawTokens t).map lowercase
      ↔ ∀ before w after, t = before ++ w ++ after → IsToken before w after
        → KeepsSigmas before after w := by
  rw [tokens_eq_map h, rawTokens_eq, List.map_map, List.map_inj_left]
  constructor
  · intro hsame before w after ht htoken
    have hplace := hsame (before.length, w) (mem_tokenPlaces_iff.2 ⟨before, after, ht, rfl, htoken⟩)
    rwa [ht, List.append_assoc, lowercasedPlace_append, Function.comp_apply,
      lowercasePart_eq_lowercase_iff] at hplace
  · rintro hkeeps ⟨start, w⟩ hplace
    obtain ⟨before, after, ht, rfl, htoken⟩ := mem_tokenPlaces_iff.1 hplace
    have hsigmas := hkeeps before w after ht htoken
    rwa [ht, List.append_assoc, lowercasedPlace_append, Function.comp_apply,
      lowercasePart_eq_lowercase_iff]

end Token

/-! ## Stopwords as they are written -/

/-- A list of stopwords has the small forms of the words it is made of, and no others. -/
theorem Stopwords.contains_iff {words : List Text} {s : Stopwords}
    (h : Stopwords.ofWords words = .ok s) {word : Text} :
    s.contains word = true ↔ word ∈ words.map lowercase := by
  by_cases hempty : (words.map lowercase).eraseDups = []
  · have hrefused : Stopwords.ofWords words = .error .emptyStopwords := dif_pos hempty
    rw [hrefused] at h
    cases h
  · have hlist : Stopwords.ofWords words = .ok ⟨_, hempty⟩ := dif_neg hempty
    rw [hlist] at h
    cases h
    rw [Stopwords.contains, List.contains_iff_mem, List.mem_eraseDups]

/-- A token is left out of the filtered view if it is a stopword or is no word. -/
theorem WordCounter.get_filtered_eq_zero_iff (c : WordCounter) {token : Text}
    (h : token ∈ tokens t) :
    (c.count (c.words t)).filteredWordFrequency.get token = 0
      ↔ c.stopwords.contains token = true ∨ c.filter.keeps token = false := by
  rw [c.get_filteredWordFrequency]
  split
  · next hstop => simp [hstop]
  · next hstop =>
    rw [List.count_eq_zero, WordCounter.words, List.mem_filter, and_iff_right h]
    simp [hstop]

/-- **When a stopword that is written like a token leaves it out.** Where no late capital stands,
the tokens are the raw tokens lowercased in their places, so they are the raw tokens lowercased
alone exactly if each of these keeps its sigmas. Token by token, where a late capital stands next to
neither end: the list of stopwords made of a raw token has the token exactly if it keeps its sigmas,
and counting leaves the token out exactly then or if it is no word. -/
theorem tokens_lowercased_alone (t : Text) :
    ((∀ c ∈ t, isLateCapital c = false) →
      rawTokens t = (tokenPlaces t).map Prod.snd ∧
      tokens t = (tokenPlaces t).map (fun place => (lowercasedPlace t place).2) ∧
      (tokens t = (rawTokens t).map lowercase ↔
        ∀ before w after, t = before ++ w ++ after → IsToken before w after
          → KeepsSigmas before after w)) ∧
    ∀ before w after, t = before ++ w ++ after → IsToken before w after →
      (∀ c ∈ before.getLast?, isLateCapital c = false) →
      (∀ c ∈ after.head?, isLateCapital c = false) →
      let token := Unicode.lowercasePart before after w
      w ∈ rawTokens t ∧ token ∈ tokens t ∧
      ∃ s, Stopwords.ofWords [w] = .ok s ∧
        (s.contains token = true ↔ KeepsSigmas before after w) ∧
        ∀ c : WordCounter, c.stopwords = s →
          ((c.count (c.words t)).filteredWordFrequency.get token = 0
            ↔ KeepsSigmas before after w ∨ c.filter.keeps token = false) := by
  refine ⟨fun h => ⟨rawTokens_eq t, tokens_eq_map h, tokens_eq_map_lowercase_iff h⟩, ?_⟩
  intro before w after ht htoken hbefore hafter token
  have hmem : token ∈ tokens t := htoken.mem_tokens ht hbefore hafter
  obtain ⟨s, hs⟩ := Stopwords.exists_ofWords (List.cons_ne_nil w [])
  have hlisted : s.contains token = true ↔ KeepsSigmas before after w := by
    rw [Stopwords.contains_iff hs, List.map_singleton, List.mem_singleton,
      lowercasePart_eq_lowercase_iff]
  refine ⟨htoken.mem_rawTokens ht, hmem, s, hs, hlisted, ?_⟩
  rintro c rfl
  rw [c.get_filtered_eq_zero_iff hmem, hlisted]

/-- In front of a blank the sigma at the end of a word is final, as it is in the word alone. -/
theorem tokens_lowercased_alone_in_front_of_blank :
    let w := "ΟΔΟΣ".toList
    let after := [' ', 'Α']
    let t := [] ++ w ++ after
    (∀ c ∈ t, isLateCapital c = false) ∧
      tokens t = (tokenPlaces t).map (fun place => (lowercasedPlace t place).2) ∧
      IsToken [] w after ∧ "οδος".toList ∈ tokens t ∧
      ∃ s, Stopwords.ofWords [w] = .ok s ∧ s.contains "οδος".toList = true ∧
        ∀ c : WordCounter, c.stopwords = s →
          (c.count (c.words t)).filteredWordFrequency.get "οδος".toList = 0 := by
  intro w after t
  have hfacts : t.all (fun c => !isLateCapital c) = true ∧ w.all isWord = true
      ∧ lowercasePart [] after w = "οδος".toList := by
    decide +kernel
  obtain ⟨hnone, hword, hlower⟩ := hfacts
  have hlate : ∀ c ∈ t, isLateCapital c = false := by
    simpa only [List.all_eq_true, Bool.not_eq_true'] using hnone
  have hafter : ∀ c ∈ after.head?, isLateCapital c = false := by
    rintro c hc
    obtain rfl : ' ' = c := Option.some.inj hc
    decide
  have htoken : IsToken [] w after :=
    { ne_nil := by decide
      isWord := List.all_eq_true.1 hword
      starts := rfl
      ends := by decide
      not_command := by decide
      not_opened := by decide
      not_closed := by decide }
  have hsigmas : KeepsSigmas [] after w := .of_casedNext rfl (by decide) w
  obtain ⟨hall, hone⟩ := tokens_lowercased_alone t
  obtain ⟨-, hmem, s, hs, hlisted, hcount⟩ := hone [] w after rfl htoken (by simp) hafter
  rw [hlower] at hmem hlisted hcount
  refine ⟨hlate, (hall hlate).2.1, htoken, hmem, s, hs, hlisted.2 hsigmas, ?_⟩
  exact fun c hc => (hcount c hc).2 (.inl hsigmas)

/-- **The two exceptions.** With a period and a letter behind it a sigma is not final, so the token
is not the stopword that is written like it, and it is counted. And a late capital is no token, but
lowercased it is one. -/
theorem tokens_not_lowercased_alone :
    let t := "ΑΣ.Α".toList
    let c (s : Stopwords) (stemmer : Stemmer) : WordCounter := ⟨⟨true, true, []⟩, s, stemmer⟩
    rawTokens t = ["ΑΣ".toList, "Α".toList] ∧ tokens t = ["ασ".toList, "α".toList] ∧
      tokens t ≠ (rawTokens t).map lowercase ∧
      (∃ s, Stopwords.ofWords ["ΑΣ".toList] = .ok s ∧ s.contains "ασ".toList = false ∧
        ∀ stemmer, ((c s stemmer).count ((c s stemmer).words t)).filteredWordFrequency.get
          "ασ".toList = 1) ∧
      rawTokens ['\uA7D2'] = [] ∧ tokens ['\uA7D2'] = [['\uA7D3']] := by
  intro t c
  have hfacts : rawTokens t = ["ΑΣ".toList, "Α".toList] ∧ tokens t = ["ασ".toList, "α".toList]
      ∧ lowercase "ΑΣ".toList = "ας".toList
      ∧ (tokens t).filter (TokenFilter.keeps ⟨true, true, []⟩) = ["ασ".toList]
      ∧ rawTokens ['\uA7D2'] = [] ∧ tokens ['\uA7D2'] = [['\uA7D3']] := by
    decide +kernel
  obtain ⟨hraw, htokens, hlower, hwords, hlate, hlateLower⟩ := hfacts
  have hdiffer : tokens t ≠ (rawTokens t).map lowercase := by
    rw [htokens, hraw, List.map_cons, hlower]
    simp
  obtain ⟨s, hs⟩ := Stopwords.exists_ofWords (List.cons_ne_nil "ΑΣ".toList [])
  have hlisted : s.contains "ασ".toList = false := by
    rw [← Bool.not_eq_true, Stopwords.contains_iff hs, List.map_singleton, hlower]
    decide
  refine ⟨hraw, htokens, hdiffer, ⟨s, hs, hlisted, fun stemmer => ?_⟩, hlate, hlateLower⟩
  rw [WordCounter.get_filteredWordFrequency, hlisted]
  show ((tokens t).filter (TokenFilter.keeps ⟨true, true, []⟩)).count _ = 1
  rw [hwords]
  rfl

end TexCensus
