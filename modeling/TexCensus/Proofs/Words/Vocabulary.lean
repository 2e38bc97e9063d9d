import TexCensus.Analysis
import TexCensus.Proofs.Markup.PlainText
import TexCensus.Proofs.Text.Lines
import TexCensus.Proofs.Unicode.Capitals
import TexCensus.Proofs.Words.Token

/-!
# Which texts are words

A token has characters of words and none that has a small letter (`isTokenText_of_mem_tokens`). All
texts of this form are tokens: if they are joined by blanks, they are the tokens of the joined text
(`tokens_joinWith`). There is nothing to clean in it, so every list of such texts that pass the
filter is the list of the words of a text, whatever the cleaner (`Analysis.words_joinWith`).
-/

namespace TexCensus

open Pattern Segment

/-- Whether a text has the form of a token. -/
structure IsTokenText (w : Text) : Prop where
  /-- A token has a character. -/
  ne_nil : w ≠ []
  /-- It has characters of words only. -/
  isWord : ∀ c ∈ w, Unicode.isWord c = true
  /-- None of them has a small letter. -/
  lowercaseChar_eq : ∀ c ∈ w, Unicode.lowercaseChar c = [c]

theorem isTokenText_iff {w : Text} :
    IsTokenText w ↔ w ≠ [] ∧ w.all Unicode.isWord = true
      ∧ (w.all fun c => Unicode.lowercaseChar c = [c]) = true := by
  simp only [List.all_eq_true, decide_eq_true_eq]
  exact ⟨fun h => ⟨h.ne_nil, h.isWord, h.lowercaseChar_eq⟩,
    fun ⟨hne, hword, hlower⟩ => ⟨hne, hword, hlower⟩⟩

instance (w : Text) : Decidable (IsTokenText w) :=
  decidable_of_iff _ isTokenText_iff.symm

/-! ## The form of a token -/

theorem map_fst_numbered (p : UInt32) (places : List (Nat × Text)) :
    (numbered p places).map Prod.fst = places.map Prod.snd := by
  induction places generalizing p with
  | nil => rfl
  | cons place places ih => rw [numbered_cons, List.map_cons, List.map_cons, ih]

theorem rawTokens_eq (t : Text) : rawTokens t = (tokenPlaces t).map Prod.snd := by
  rw [rawTokens, tokenize_eq, map_fst_numbered]

theorem exists_isToken_of_mem_rawTokens {t w : Text} (h : w ∈ rawTokens t) :
    ∃ before after, t = before ++ w ++ after ∧ IsToken before w after := by
  rw [rawTokens_eq] at h
  obtain ⟨⟨start, run⟩, hplace, rfl⟩ := List.mem_map.1 h
  obtain ⟨before, after, ht, -, htoken⟩ := mem_tokenPlaces_iff.1 hplace
  exact ⟨before, after, ht, htoken⟩

/-- **Tokens have characters of words only, and none with a small letter.** -/
theorem isTokenText_of_mem_tokens {t w : Text} (h : w ∈ tokens t) : IsTokenText w := by
  obtain ⟨before, after, ht, htoken⟩ := exists_isToken_of_mem_rawTokens h
  refine ⟨htoken.ne_nil, htoken.isWord, fun c hc => ?_⟩
  refine Unicode.lowercaseChar_of_mem_lowercase (t := t) ?_
  rw [ht]
  exact List.mem_append_left _ (List.mem_append_right _ hc)

/-- A character that is not of words stands in no token. -/
theorem IsTokenText.not_mem {w : Text} (h : IsTokenText w) {c : Char}
    (hc : Unicode.isWord c = false) : c ∉ w := by
  intro hmem
  rw [h.isWord c hmem] at hc
  cases hc

/-! ## Tokens joined by blanks -/

variable {t : Text} {ws : List Text}

/-- Without marks all runs of a text are tokens. -/
theorem rawTokens_eq_hits (hbackslash : '\\' ∉ t) (hopen : '{' ∉ t) (hclose : '}' ∉ t) :
    rawTokens t = wordRun.hits t := by
  have hfree : ∀ place ∈ wordRun.placedHits t, isFree t place = true := by
    rintro ⟨start, run⟩ hplace
    obtain ⟨before, after, rfl, rfl, -⟩ := mem_placedHits_wordRun_iff.1 hplace
    simp only [List.mem_append, not_or] at hbackslash hopen hclose
    refine (isFree_iff rfl).2 ⟨?_, ?_, ?_⟩
    · exact fun h => hbackslash.1.1 (List.mem_of_getLast? h)
    · exact fun h => hopen.1.1 (List.mem_of_getLast? h)
    · exact fun h => hclose.2 (List.mem_of_head? h)
  rw [rawTokens_eq, tokenPlaces, List.filter_eq_self.2 hfree, map_snd_placedHits]

theorem isWord_blank : Unicode.isWord ' ' = false := by decide

theorem hits_wordRun_joinWith (h : ∀ w ∈ ws, IsTokenText w) :
    wordRun.hits (joinWith [' '] ws) = ws := by
  induction ws with
  | nil => simp
  | cons w ws ih =>
    obtain ⟨hw, hws⟩ := List.forall_mem_cons.1 h
    have hhit (rest : Text) (hrest : beginsWord rest = false) :
        wordRun.hits (w ++ rest) = w :: wordRun.hits rest := by
      rw [hits, segments_wordRun_hit hw.ne_nil hw.isWord hrest]
      rfl
    cases ws with
    | nil =>
      have hend := hhit [] rfl
      rw [List.append_nil, hits_nil] at hend
      rw [joinWith_singleton, hend]
    | cons next ws =>
      have hblank (rest : Text) : wordRun.hits (' ' :: rest) = wordRun.hits rest := by
        rw [hits, segments_wordRun_kept isWord_blank]
        rfl
      rw [joinWith_cons_cons, List.append_assoc, List.singleton_append,
        hhit _ ((beginsWord_cons _ _).trans isWord_blank), hblank, ih hws]

/-- Marks of comments, commands, groups and equations do not stand in joined tokens. -/
theorem mark_not_mem_joinWith (h : ∀ w ∈ ws, IsTokenText w) {c : Char}
    (hc : c ∈ ['%', '\\', '{', '}', '$']) : c ∉ joinWith [' '] ws := by
  have hmarks : (['%', '\\', '{', '}', '$'].all fun c => c ≠ ' ' && !Unicode.isWord c) = true := by
    decide
  have hmark := List.all_eq_true.1 hmarks c hc
  rw [Bool.and_eq_true, decide_eq_true_eq, Bool.not_eq_true'] at hmark
  obtain ⟨hblank, hword⟩ := hmark
  intro hmem
  rcases mem_of_mem_joinWith hmem with hc | ⟨w, hw, hc⟩
  · exact hblank (List.mem_singleton.1 hc)
  · exact (h w hw).not_mem hword hc

/-- **Tokens that are joined by blanks are found again.** -/
theorem tokens_joinWith (h : ∀ w ∈ ws, IsTokenText w) : tokens (joinWith [' '] ws) = ws := by
  have hlower : Unicode.lowercase (joinWith [' '] ws) = joinWith [' '] ws := by
    refine Unicode.lowercase_eq_self fun c hc => ?_
    rcases mem_of_mem_joinWith hc with hc | ⟨w, hw, hc⟩
    · rw [List.mem_singleton.1 hc]
      decide
    · exact (h w hw).lowercaseChar_eq c hc
  rw [tokens, hlower, rawTokens_eq_hits (mark_not_mem_joinWith h (by simp))
    (mark_not_mem_joinWith h (by simp)) (mark_not_mem_joinWith h (by simp)),
    hits_wordRun_joinWith h]

theorem isPlain_joinWith (h : ∀ w ∈ ws, IsTokenText w) : IsPlain (joinWith [' '] ws) where
  no_percent := mark_not_mem_joinWith h (by simp)
  no_backslash := mark_not_mem_joinWith h (by simp)
  no_dollar := mark_not_mem_joinWith h (by simp)

/-! ## Words -/

/-- Whether a text can be a word: it has the form of a token and passes the filter. -/
def WordCounter.CanFind (c : WordCounter) (w : Text) : Prop :=
  IsTokenText w ∧ c.filter.keeps w = true

instance (c : WordCounter) (w : Text) : Decidable (c.CanFind w) :=
  inferInstanceAs (Decidable (_ ∧ _))

theorem WordCounter.canFind_of_mem_words {c : WordCounter} {cleaned w : Text}
    (h : w ∈ c.words cleaned) : c.CanFind w :=
  ⟨isTokenText_of_mem_tokens (List.mem_filter.1 h).1, (List.mem_filter.1 h).2⟩

/-- **Every list of texts that can be words is the list of the words of a text.** -/
theorem Analysis.words_joinWith (a : Analysis) (h : ∀ w ∈ ws, a.counter.CanFind w) :
    a.words (joinWith [' '] ws) = ws := by
  have htokens : ∀ w ∈ ws, IsTokenText w := fun w hw => (h w hw).1
  have hplain := isPlain_joinWith htokens
  rw [words, stripComments_eq_self hplain.no_percent, hplain.clean_eq_self, WordCounter.words,
    tokens_joinWith htokens, List.filter_eq_self.2 fun w hw => (h w hw).2]

end TexCensus
