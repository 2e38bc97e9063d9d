import TexCensus.Proofs.Pattern.Matching

/-!
# What a pattern can take

The texts that a pattern can take in front of another text, without regard to which of them the
matcher prefers (`Pattern.Takes`). The matcher answers only with such a text (`run_eq_some`), and it
answers if there is one (`isSome_run_of_takes`), so a pattern matches at the front of a text exactly
if it can take a beginning of it (`isSome_matchLength?_iff`).

Of the text behind, a pattern sees at most whether it begins with a character of words
(`Takes.mono`), and nothing at all if it has no word end (`Takes.of_hasWordEnd`).
-/

namespace TexCensus.Pattern

/-- Whether a text goes on with a character of words. -/
def beginsWord (t : Text) : Bool :=
  t.head?.any Unicode.isWord

theorem beginsWord_cons (c : Char) (t : Text) : beginsWord (c :: t) = Unicode.isWord c := rfl

/-- No character of words comes behind as many as there are. -/
theorem beginsWord_dropWhile (t : Text) : beginsWord (t.dropWhile Unicode.isWord) = false := by
  have hhead := List.head?_dropWhile_not Unicode.isWord t
  rw [beginsWord]
  cases hc : (t.dropWhile Unicode.isWord).head? with
  | none => rfl
  | some c =>
    rw [hc] at hhead
    exact hhead

/-- As many characters of words as there are, where no more come behind. -/
theorem takeWhile_isWord_append {w rest : Text} (hw : ∀ c ∈ w, Unicode.isWord c)
    (hrest : beginsWord rest = false) : (w ++ rest).takeWhile Unicode.isWord = w := by
  have hnil : rest.takeWhile Unicode.isWord = [] := by
    cases rest with
    | nil => rfl
    | cons c rest => rw [List.takeWhile_cons, ← beginsWord_cons c rest, hrest]; rfl
  rw [List.takeWhile_append_of_pos hw, hnil, List.append_nil]

/-- Whether a pattern can take a text in front of a rest. -/
def Takes : Pattern → Text → Text → Prop
  | literal t, taken, _ => taken = t
  | one s, taken, _ => ∃ c, s.has c ∧ taken = [c]
  | greedy s, taken, _ | lazy s, taken, _ => ∀ c ∈ taken, s.has c
  | wordEnd, taken, rest => taken = [] ∧ beginsWord rest = false
  | optional p, taken, rest => p.Takes taken rest ∨ taken = []
  | seq p q, taken, rest => ∃ a b, taken = a ++ b ∧ p.Takes a (b ++ rest) ∧ q.Takes b rest

variable {p : Pattern} {k : Continuation} {n m : Nat} {text taken rest : Text}

/-! ## The matcher's answers -/

/-- A continuation is reached with a rest of the text behind a beginning that was taken. -/
def Reaches (k : Continuation) (n m : Nat) (text : Text) (takes : Text → Text → Prop) : Prop :=
  ∃ taken rest, text = taken ++ rest ∧ takes taken rest ∧ k (n + taken.length) rest = some m

theorem reaches_of_eq {takes : Text → Text → Prop} (h : k n text = some m)
    (hnil : takes [] text) : Reaches k n m text takes :=
  ⟨[], text, rfl, hnil, h⟩

/-- A run of one more character reaches what a run behind it reaches. -/
theorem Reaches.cons {s : CharSet} {c : Char} (hc : s.has c)
    (h : Reaches k (n + 1) m text fun taken _ => ∀ d ∈ taken, s.has d) :
    Reaches k n m (c :: text) fun taken _ => ∀ d ∈ taken, s.has d := by
  obtain ⟨taken, rest, rfl, htaken, hk⟩ := h
  refine ⟨c :: taken, rest, rfl, List.forall_mem_cons.2 ⟨hc, htaken⟩, ?_⟩
  rw [List.length_cons, ← hk]
  congr 1
  omega

theorem runGreedy_eq_some {s : CharSet} (h : runGreedy s k n text = some m) :
    Reaches k n m text fun taken _ => ∀ c ∈ taken, s.has c := by
  induction text generalizing n with
  | nil => exact reaches_of_eq h (by simp)
  | cons c text ih =>
    rw [runGreedy] at h
    split at h
    · next hc =>
      split at h
      · next r hr => exact (ih (hr.trans h)).cons hc
      · exact reaches_of_eq h (by simp)
    · exact reaches_of_eq h (by simp)

theorem runLazy_eq_some {s : CharSet} (h : runLazy s k n text = some m) :
    Reaches k n m text fun taken _ => ∀ c ∈ taken, s.has c := by
  induction text generalizing n with
  | nil => exact reaches_of_eq h (by simp)
  | cons c text ih =>
    rw [runLazy] at h
    split at h
    · next r hr => exact reaches_of_eq (hr.trans h) (by simp)
    · split at h
      · next hc => exact (ih h).cons hc
      · cases h

/-- **The matcher answers only with a text that the pattern can take.** -/
theorem run_eq_some (h : p.run k n text = some m) : Reaches k n m text p.Takes := by
  induction p generalizing k n text with
  | literal t =>
    rw [run] at h
    split at h
    · next rest hrest => exact ⟨t, rest, dropStart?_eq_some_iff.1 hrest, rfl, h⟩
    · cases h
  | one s =>
    cases text with
    | nil => cases h
    | cons c text =>
      rw [run] at h
      split at h
      · next hc => exact ⟨[c], text, rfl, ⟨c, hc, rfl⟩, h⟩
      · cases h
  | greedy s => exact runGreedy_eq_some h
  | lazy s => exact runLazy_eq_some h
  | wordEnd =>
    cases text with
    | nil => exact reaches_of_eq h ⟨rfl, rfl⟩
    | cons c text =>
      simp only [run] at h
      split at h
      · cases h
      · next hc => exact reaches_of_eq h ⟨rfl, by simpa [beginsWord] using hc⟩
  | optional p ih =>
    rw [run] at h
    split at h
    · next r hr =>
      obtain ⟨taken, rest, htext, htakes, hk⟩ := ih (hr.trans h)
      exact ⟨taken, rest, htext, .inl htakes, hk⟩
    · exact reaches_of_eq h (.inr rfl)
  | seq p q ihp ihq =>
    obtain ⟨a, rest, rfl, ha, hq⟩ := ihp h
    obtain ⟨b, rest, rfl, hb, hk⟩ := ihq hq
    refine ⟨a ++ b, rest, (List.append_assoc a b rest).symm, ⟨a, b, rfl, ha, hb⟩, ?_⟩
    rwa [List.length_append, ← Nat.add_assoc]

/-! ## The matcher answers -/

theorem isSome_runGreedy {s : CharSet} (h : ∀ c ∈ taken, s.has c)
    (hk : (k (n + taken.length) rest).isSome) : (runGreedy s k n (taken ++ rest)).isSome := by
  induction taken generalizing n with
  | nil =>
    cases rest with
    | nil => exact hk
    | cons c rest =>
      rw [List.nil_append, runGreedy]
      split
      · split
        · rfl
        · exact hk
      · exact hk
  | cons c taken ih =>
    rw [List.forall_mem_cons] at h
    have hrest : (runGreedy s k (n + 1) (taken ++ rest)).isSome := by
      refine ih h.2 ?_
      rwa [Nat.add_assoc, Nat.add_comm 1]
    obtain ⟨r, hr⟩ := Option.isSome_iff_exists.1 hrest
    rw [List.cons_append, runGreedy, if_pos h.1, hr]
    rfl

theorem isSome_runLazy {s : CharSet} (h : ∀ c ∈ taken, s.has c)
    (hk : (k (n + taken.length) rest).isSome) : (runLazy s k n (taken ++ rest)).isSome := by
  induction taken generalizing n with
  | nil =>
    obtain ⟨r, hr⟩ := Option.isSome_iff_exists.1 hk
    exact Option.isSome_iff_exists.2 ⟨r, runLazy_of_some hr⟩
  | cons c taken ih =>
    rw [List.forall_mem_cons] at h
    have hrest : (runLazy s k (n + 1) (taken ++ rest)).isSome := by
      refine ih h.2 ?_
      rwa [Nat.add_assoc, Nat.add_comm 1]
    rw [List.cons_append, runLazy]
    split
    · rfl
    · rwa [if_pos h.1]

/-- **The matcher answers if the pattern can take a text.** -/
theorem isSome_run_of_takes (h : p.Takes taken rest) (hk : (k (n + taken.length) rest).isSome) :
    (p.run k n (taken ++ rest)).isSome := by
  induction p generalizing k n taken rest with
  | literal t =>
    obtain rfl : taken = t := h
    rwa [run_literal_append]
  | one s =>
    obtain ⟨c, hc, rfl⟩ := h
    rw [List.singleton_append, run, if_pos hc]
    exact hk
  | greedy s => exact isSome_runGreedy h hk
  | lazy s => exact isSome_runLazy h hk
  | wordEnd =>
    obtain ⟨rfl, hrest⟩ := h
    cases rest with
    | nil => exact hk
    | cons c rest =>
      have hc : Unicode.isWord c = false := by simpa [beginsWord] using hrest
      simpa [run, hc] using hk
  | optional p ih =>
    rw [run]
    split
    · rfl
    · next hnone =>
      rcases h with h | rfl
      · rw [← Option.not_isSome_iff_eq_none] at hnone
        exact absurd (ih h hk) hnone
      · exact hk
  | seq p q ihp ihq =>
    obtain ⟨a, b, rfl, ha, hb⟩ := h
    rw [List.append_assoc]
    refine ihp ha (ihq hb ?_)
    rwa [Nat.add_assoc, ← List.length_append]

/-! ## Matches -/

theorem takes_of_matchLength? (h : p.matchLength? text = some n) :
    ∃ taken rest, text = taken ++ rest ∧ taken.length = n ∧ p.Takes taken rest := by
  obtain ⟨taken, rest, htext, htakes, hk⟩ := run_eq_some h
  refine ⟨taken, rest, htext, ?_, htakes⟩
  simpa using hk

theorem takes_of_matchLength?_append (h : p.matchLength? (taken ++ rest) = some taken.length) :
    p.Takes taken rest := by
  obtain ⟨taken', rest', htext, hlength, htakes⟩ := takes_of_matchLength? h
  obtain ⟨rfl, rfl⟩ := List.append_inj htext hlength.symm
  exact htakes

/-- A match is no longer than the text. -/
theorem matchLength?_le (h : p.matchLength? text = some n) : n ≤ text.length := by
  obtain ⟨taken, rest, rfl, rfl, -⟩ := takes_of_matchLength? h
  rw [List.length_append]
  exact Nat.le_add_right _ _

/-- **A pattern matches where it can take a text.** -/
theorem isSome_matchLength?_iff :
    (p.matchLength? text).isSome ↔ ∃ taken rest, text = taken ++ rest ∧ p.Takes taken rest := by
  constructor
  · intro h
    obtain ⟨n, hn⟩ := Option.isSome_iff_exists.1 h
    obtain ⟨taken, rest, htext, -, htakes⟩ := takes_of_matchLength? hn
    exact ⟨taken, rest, htext, htakes⟩
  · rintro ⟨taken, rest, rfl, htakes⟩
    exact isSome_run_of_takes htakes rfl

/-! ## The text behind -/

theorem beginsWord_append {a : Text} (hne : a ≠ []) (b : Text) :
    beginsWord (a ++ b) = beginsWord a := by
  rw [beginsWord, beginsWord, List.head?_append_of_ne_nil a hne]

/-- A pattern can take a text in front of any other rest, unless that one, and it alone, begins with
a character of words. -/
theorem Takes.mono {rest' : Text} (h : p.Takes taken rest)
    (hword : beginsWord rest' = true → beginsWord rest = true) : p.Takes taken rest' := by
  induction p generalizing taken rest rest' with
  | literal t => exact h
  | one s => exact h
  | greedy s => exact h
  | lazy s => exact h
  | wordEnd =>
    refine ⟨h.1, ?_⟩
    rw [Bool.eq_false_iff]
    intro hrest'
    exact absurd (hword hrest') (by simp [h.2])
  | optional p ih => exact h.imp (fun h => ih h hword) id
  | seq p q ihp ihq =>
    obtain ⟨a, b, rfl, ha, hb⟩ := h
    refine ⟨a, b, rfl, ihp ha ?_, ihq hb hword⟩
    rcases eq_or_ne b [] with rfl | hne
    · exact hword
    · rw [beginsWord_append hne, beginsWord_append hne]
      exact id

/-- Whether a pattern looks at a character behind the text it takes. -/
def hasWordEnd : Pattern → Bool
  | literal _ | one _ | greedy _ | lazy _ => false
  | wordEnd => true
  | optional p => p.hasWordEnd
  | seq p q => p.hasWordEnd || q.hasWordEnd

/-- A pattern without a word end does not see the rest. -/
theorem Takes.of_hasWordEnd (hp : p.hasWordEnd = false) (h : p.Takes taken rest) (rest' : Text) :
    p.Takes taken rest' := by
  induction p generalizing taken rest rest' with
  | literal t => exact h
  | one s => exact h
  | greedy s => exact h
  | lazy s => exact h
  | wordEnd => cases hp
  | optional p ih => exact h.imp (fun h => ih hp h rest') id
  | seq p q ihp ihq =>
    rw [hasWordEnd, Bool.or_eq_false_iff] at hp
    obtain ⟨a, b, rfl, ha, hb⟩ := h
    exact ⟨a, b, rfl, ihp hp.1 ha _, ihq hp.2 hb rest'⟩

end TexCensus.Pattern
