import Mathlib.Data.Finset.Card
import TexCensus.Record.Corrections

/-!
# How often a phrase occurs

A phrase may overlap itself, so the places where it stands need not all count at once. The words are
gone through from the left, and each place is taken that does not overlap the one taken before
(`TakenFrom`). No choice of places without overlap is larger (`countPhrase_isGreatest`). Each of
them is a place of the first word, so a phrase occurs no more often than that
(`countPhrase_le_count`).
-/

namespace TexCensus

/-! ## Places without overlap -/

/-- Whether a phrase stands at a place: it begins the words from there on. -/
def OccursAt (phrase words : List Text) (i : Nat) : Prop :=
  phrase <+: words.drop i

instance (phrase words : List Text) (i : Nat) : Decidable (OccursAt phrase words i) :=
  inferInstanceAs (Decidable (phrase <+: words.drop i))

/-- Places where a phrase stands, no two of which overlap. -/
structure IsPacking (phrase words : List Text) (places : Finset Nat) : Prop where
  /-- The phrase stands at every place. -/
  occurs : ∀ i ∈ places, OccursAt phrase words i
  /-- Each place lies behind the end of those in front of it. -/
  apart : ∀ i ∈ places, ∀ j ∈ places, i < j → i + phrase.length ≤ j

/-- The places where a phrase is taken if one looks from the left, from the place `i` on. -/
inductive TakenFrom (phrase words : List Text) : Nat → List Nat → Prop where
  /-- The phrase does not stand anywhere from here on. -/
  | none {i : Nat} (hnone : ∀ j, i ≤ j → ¬OccursAt phrase words j) : TakenFrom phrase words i []
  /-- The first place where it stands is taken, and the search goes on behind its end. -/
  | next {i j : Nat} {places : List Nat} (hle : i ≤ j) (hoccurs : OccursAt phrase words j)
      (hfirst : ∀ m, i ≤ m → m < j → ¬OccursAt phrase words m)
      (hrest : TakenFrom phrase words (j + phrase.length) places) :
      TakenFrom phrase words i (j :: places)

variable {phrase words : List Text} {i : Nat} {taken : List Nat}

/-- A place where the phrase does not stand can be passed over. -/
theorem TakenFrom.pass (hi : ¬OccursAt phrase words i)
    (h : TakenFrom phrase words (i + 1) taken) : TakenFrom phrase words i taken := by
  -- The search from `i` looks at `i` first and then at what the search from `i + 1` looks at.
  have hskip {m : Nat} (hm : i ≤ m) (hnot : i + 1 ≤ m → ¬OccursAt phrase words m) :
      ¬OccursAt phrase words m := by
    rcases Nat.eq_or_lt_of_le hm with rfl | hlt
    · exact hi
    · exact hnot hlt
  cases h with
  | none hnone => exact .none fun m hm => hskip hm (hnone m)
  | next hle hoccurs hfirst hrest =>
    exact .next (by omega) hoccurs (fun m hm hlt => hskip hm fun hm => hfirst m hm hlt) hrest

/-! ## The places taken have no overlap -/

theorem TakenFrom.le (h : TakenFrom phrase words i taken) : ∀ j ∈ taken, i ≤ j := by
  induction h with
  | none => simp
  | next hle _ _ _ ih =>
    intro j hj
    rcases List.mem_cons.1 hj with rfl | hj
    · exact hle
    · have := ih j hj
      omega

theorem TakenFrom.occursAt (h : TakenFrom phrase words i taken) :
    ∀ j ∈ taken, OccursAt phrase words j := by
  induction h with
  | none => simp
  | next _ hoccurs _ _ ih => exact List.forall_mem_cons.2 ⟨hoccurs, ih⟩

theorem TakenFrom.pairwise (h : TakenFrom phrase words i taken) :
    taken.Pairwise fun a b => a + phrase.length ≤ b := by
  induction h with
  | none => exact List.Pairwise.nil
  | next _ _ _ hrest ih => exact List.Pairwise.cons hrest.le ih

theorem TakenFrom.nodup (hne : phrase ≠ []) (h : TakenFrom phrase words i taken) :
    taken.Nodup := by
  have hlength : 0 < phrase.length := List.length_pos_of_ne_nil hne
  exact h.pairwise.imp fun hab heq => by omega

/-- **The places taken from the left have no overlap.** -/
theorem TakenFrom.isPacking (h : TakenFrom phrase words i taken) :
    IsPacking phrase words taken.toFinset where
  occurs j hj := h.occursAt j (List.mem_toFinset.1 hj)
  apart a ha b hb hab := by
    rw [List.mem_toFinset] at ha hb
    obtain ⟨m, hm, rfl⟩ := List.getElem_of_mem ha
    obtain ⟨n, hn, rfl⟩ := List.getElem_of_mem hb
    rcases Nat.lt_trichotomy m n with hmn | rfl | hnm
    · exact List.pairwise_iff_getElem.1 h.pairwise m n hm hn hmn
    · omega
    · have := List.pairwise_iff_getElem.1 h.pairwise n m hn hm hnm
      omega

/-! ## No choice is larger -/

/-- Within the length of a phrase no two places lie apart. -/
theorem IsPacking.card_window_le {places : Finset Nat} (h : IsPacking phrase words places) (j : Nat)
    (hwindow : ∀ a ∈ places, j ≤ a ∧ a < j + phrase.length) : places.card ≤ 1 := by
  refine Finset.card_le_one.2 fun a ha b hb => ?_
  have hja := hwindow a ha
  have hjb := hwindow b hb
  rcases Nat.lt_trichotomy a b with hab | hab | hab
  · have := h.apart a ha b hb hab
    omega
  · exact hab
  · have := h.apart b hb a ha hab
    omega

theorem IsPacking.subset {places fewer : Finset Nat} (h : IsPacking phrase words places)
    (hsub : fewer ⊆ places) : IsPacking phrase words fewer where
  occurs a ha := h.occurs a (hsub ha)
  apart a ha b hb := h.apart a (hsub ha) b (hsub hb)

/-- **No choice of places is larger than the one from the left.** -/
theorem TakenFrom.card_le (h : TakenFrom phrase words i taken) {places : Finset Nat}
    (hplaces : IsPacking phrase words places) (hfrom : ∀ a ∈ places, i ≤ a) :
    places.card ≤ taken.length := by
  induction h generalizing places with
  | none hnone =>
    have hempty : places = ∅ :=
      Finset.eq_empty_of_forall_notMem fun a ha => hnone a (hfrom a ha) (hplaces.occurs a ha)
    simp [hempty]
  | @next i j taken hle hoccurs hfirst hrest ih =>
    -- Of the places chosen, one at most lies in front of the end of the first place taken.
    let behind : Finset Nat := places.filter (j + phrase.length ≤ ·)
    let front : Finset Nat := places.filter (¬j + phrase.length ≤ ·)
    have hfront : front.card ≤ 1 := by
      refine (hplaces.subset (Finset.filter_subset _ _)).card_window_le j fun a ha => ?_
      obtain ⟨ha, hlt⟩ := Finset.mem_filter.1 ha
      have hja : j ≤ a := by
        by_contra hlt
        exact hfirst a (hfrom a ha) (by omega) (hplaces.occurs a ha)
      exact ⟨hja, by omega⟩
    have hbehind : behind.card ≤ taken.length :=
      ih (hplaces.subset (Finset.filter_subset _ _)) fun a ha => (Finset.mem_filter.1 ha).2
    have hsum : behind.card + front.card = places.card :=
      Finset.card_filter_add_card_filter_not _
    rw [List.length_cons]
    omega

/-! ## Counting -/

theorem occursAt_cons_iff {first : Text} {others : List Text} {word : Text} {rest : List Text}
    (hi : words.drop i = word :: rest) :
    OccursAt (first :: others) words i ↔ word = first ∧ others <+: rest := by
  rw [OccursAt, hi, List.cons_prefix_cons, eq_comm]

/-- **Counting takes the places from the left.** -/
theorem countPhraseFrom_eq (first : Text) (others : List Text) (found : Nat) {rest : List Text}
    (hrest : words.drop i = rest) : ∃ taken, TakenFrom (first :: others) words i taken
      ∧ countPhraseFrom first others found rest = found + taken.length := by
  fun_induction countPhraseFrom first others found rest generalizing i with
  | case1 found =>
    refine ⟨[], .none fun j hj h => ?_, rfl⟩
    have hj : words.drop j = [] := by
      rw [List.drop_eq_nil_iff] at hrest ⊢
      omega
    rw [OccursAt, hj] at h
    simp at h
  | case2 found word rest hmatch ih =>
    rw [Bool.and_eq_true, decide_eq_true_iff, List.isPrefixOf_iff_prefix] at hmatch
    have hnext : words.drop (i + (first :: others).length) = rest.drop others.length := by
      rw [List.length_cons, ← List.drop_drop, hrest, List.drop_succ_cons]
    obtain ⟨taken, htaken, heq⟩ := ih hnext
    refine ⟨i :: taken, .next (Nat.le_refl i) ((occursAt_cons_iff hrest).2 hmatch) ?_ htaken, ?_⟩
    · intro m hm hlt
      omega
    · rw [heq, List.length_cons]
      omega
  | case3 found word rest hno ih =>
    rw [Bool.and_eq_true, decide_eq_true_iff, List.isPrefixOf_iff_prefix] at hno
    have hnext : words.drop (i + 1) = rest := by
      rw [← List.drop_drop, hrest, List.drop_one, List.tail_cons]
    obtain ⟨taken, htaken, heq⟩ := ih hnext
    exact ⟨taken, htaken.pass fun h => hno ((occursAt_cons_iff hrest).1 h), heq⟩

/-! ## A phrase and its words -/

theorem countPhraseFrom_le (first : Text) (others : List Text) (found : Nat) (words : List Text) :
    countPhraseFrom first others found words ≤ found + words.count first := by
  fun_induction countPhraseFrom first others found words with
  | case1 found => exact Nat.le_add_right ..
  | case2 found word rest hmatch ih =>
    rw [Bool.and_eq_true, decide_eq_true_iff] at hmatch
    have hdrop := (List.drop_sublist others.length rest).count_le first
    rw [hmatch.1, List.count_cons_self]
    omega
  | case3 found word rest hno ih =>
    have hcons := (List.sublist_cons_self word rest).count_le first
    omega

/-- **A phrase occurs no more often than its first word**, since the places where it is counted are
places of this word. -/
theorem countPhrase_le_count (first : Text) (others words : List Text) :
    countPhrase words (first :: others) ≤ words.count first := by
  have hle := countPhraseFrom_le first others 0 words
  rwa [Nat.zero_add] at hle

/-- The words of a phrase that occurs do. -/
theorem subset_of_countPhrase_pos (h : 0 < countPhrase words phrase) : phrase ⊆ words := by
  cases phrase with
  | nil => exact List.nil_subset words
  | cons first others =>
    obtain ⟨taken, htaken, hcount⟩ :=
      countPhraseFrom_eq first others 0 (List.drop_zero (l := words))
    rw [countPhrase, hcount, Nat.zero_add] at h
    obtain ⟨i, hi⟩ := List.exists_mem_of_length_pos h
    exact fun word hword => List.drop_subset i words ((htaken.occursAt i hi).subset hword)

theorem countPhrase_self (hne : phrase ≠ []) : countPhrase phrase phrase = 1 := by
  obtain ⟨first, others, rfl⟩ := List.exists_cons_of_ne_nil hne
  simp [countPhrase, countPhraseFrom]

/-! ## The largest choice -/

/-- **A phrase is counted as often as it can occur without overlap.** The places taken from the left
have no overlap, they are as many as are counted, and no places without overlap are more. -/
theorem countPhrase_isGreatest (words : List Text) {phrase : List Text} (hne : phrase ≠ []) :
    ∃ taken, TakenFrom phrase words 0 taken
      ∧ IsPacking phrase words taken.toFinset
      ∧ taken.toFinset.card = countPhrase words phrase
      ∧ ∀ places, IsPacking phrase words places → places.card ≤ countPhrase words phrase := by
  obtain ⟨first, others, rfl⟩ := List.exists_cons_of_ne_nil hne
  obtain ⟨taken, htaken, hcount⟩ :=
    countPhraseFrom_eq first others 0 (List.drop_zero (l := words))
  rw [Nat.zero_add] at hcount
  have hcount : countPhrase words (first :: others) = taken.length := hcount
  refine ⟨taken, htaken, htaken.isPacking, ?_, ?_⟩
  · rw [List.toFinset_card_of_nodup (htaken.nodup hne), hcount]
  · intro places hplaces
    rw [hcount]
    exact htaken.card_le hplaces fun a _ => Nat.zero_le a

/-- A phrase that stands at the places 0, 2 and 4, of which the middle one overlaps both others. -/
theorem countPhrase_isGreatest_of_self_overlap :
    let words := ["a", "b", "a", "b", "a", "b", "a"].map String.toList
    let phrase := ["a", "b", "a"].map String.toList
    phrase ≠ [] ∧ OccursAt phrase words 0 ∧ OccursAt phrase words 2 ∧ OccursAt phrase words 4
      ∧ countPhrase words phrase = 2
      ∧ ∀ places, IsPacking phrase words places → places.card ≤ 2 := by
  intro words phrase
  have hne : phrase ≠ [] := by decide
  have hcount : countPhrase words phrase = 2 := by
    simp [words, phrase, countPhrase, countPhraseFrom]
  obtain ⟨taken, -, -, -, hgreatest⟩ := countPhrase_isGreatest words hne
  rw [hcount] at hgreatest
  exact ⟨hne, by decide, by decide, by decide, hcount, hgreatest⟩

end TexCensus
