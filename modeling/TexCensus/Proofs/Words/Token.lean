import Mathlib.Algebra.GroupWithZero.Nat
import TexCensus.Proofs.Pattern.Stretches
import TexCensus.Proofs.Text.Utf8Ascii
import TexCensus.Words.Token

/-!
# Tokens are whole runs

A search for runs of word characters finds every maximal run once and nothing else
(`mem_placedHits_wordRun_iff`). The walk that makes tokens of the runs looks at single bytes next to
them. The three marks it looks for are ASCII, so it sees what stands there in the text, whatever the
number of bytes of the characters (`opensArgument_iff`, `closesArgument_iff`). So the tokens are the
maximal runs without these marks, numbered in the order of the text (`tokenize_places`).
-/

namespace TexCensus

open Pattern Segment

/-! ## Runs -/

/-- Whether a text ends with a character of words. -/
def endsWord (t : Text) : Bool :=
  t.getLast?.any Unicode.isWord

theorem endsWord_append {b : Text} (hne : b ≠ []) (a : Text) : endsWord (a ++ b) = endsWord b := by
  rw [endsWord, endsWord, List.getLast?_append_of_ne_nil a hne]

theorem endsWord_of_isWord {w : Text} (hne : w ≠ []) (hw : ∀ c ∈ w, Unicode.isWord c) :
    endsWord w = true := by
  rw [endsWord, List.getLast?_eq_some_getLast hne]
  exact hw _ (List.getLast_mem hne)

/-- Whether a text is a run of word characters that goes on neither in front nor behind. -/
structure IsRun (before run after : Text) : Prop where
  /-- The run has a character. -/
  ne_nil : run ≠ []
  /-- It has word characters only. -/
  isWord : ∀ c ∈ run, Unicode.isWord c
  /-- No word character stands directly in front. -/
  starts : endsWord before = false
  /-- No word character stands directly behind. -/
  ends : beginsWord after = false

/-! ## The search for runs -/

theorem matchLength?_wordRun_cons (c : Char) (t : Text) :
    wordRun.matchLength? (c :: t)
      = if Unicode.isWord c then some ((c :: t).takeWhile Unicode.isWord).length else none := by
  show (one .word).run (runGreedy .word fun n _ => some n) 0 (c :: t) = _
  rw [run, runGreedy_all, List.takeWhile_cons]
  show (if Unicode.isWord c then _ else _) = _
  split
  · rw [List.length_cons, Nat.add_comm (0 + 1)]
    rfl
  · rfl

theorem segments_wordRun_kept {c : Char} (hc : Unicode.isWord c = false) (rest : Text) :
    wordRun.segments (c :: rest) = .kept c :: wordRun.segments rest := by
  refine segments_of_no_match fun n => ?_
  simp [matchLength?_wordRun_cons, hc]

theorem segments_wordRun_hit {w rest : Text} (hne : w ≠ []) (hw : ∀ c ∈ w, Unicode.isWord c)
    (hrest : beginsWord rest = false) :
    wordRun.segments (w ++ rest) = .hit w :: wordRun.segments rest := by
  refine segments_append_of_match hne ?_
  have htake := takeWhile_isWord_append hw hrest
  obtain ⟨c, w, rfl⟩ := List.exists_cons_of_ne_nil hne
  rw [List.cons_append] at htake ⊢
  rw [matchLength?_wordRun_cons, if_pos (hw c (List.mem_cons_self ..)), htake]

theorem exists_run_in_front {c : Char} (hc : Unicode.isWord c = true) (a : Text) :
    ∃ w r, c :: a = w ++ r ∧ w ≠ [] ∧ (∀ d ∈ w, Unicode.isWord d) ∧ beginsWord r = false := by
  refine ⟨(c :: a).takeWhile Unicode.isWord, (c :: a).dropWhile Unicode.isWord,
    List.takeWhile_append_dropWhile.symm, ?_, List.all_eq_true.1 List.all_takeWhile,
    beginsWord_dropWhile (c :: a)⟩
  rw [List.takeWhile_cons, if_pos hc]
  exact List.cons_ne_nil _ _

/-- **The search can be cut behind any character that is not of words.** -/
theorem segments_wordRun_append {a : Text} (ha : endsWord a = false) (rest : Text) :
    wordRun.segments (a ++ rest) = wordRun.segments a ++ wordRun.segments rest := by
  induction h : a.length using Nat.strongRecOn generalizing a with
  | _ size ih =>
    cases a with
    | nil => simp
    | cons c a =>
      rw [List.length_cons] at h
      by_cases hc : Unicode.isWord c = true
      · -- The run in front ends before `a` does, so it is the same with and without the rest.
        obtain ⟨w, r, hsplit, hwne, hw, hr⟩ := exists_run_in_front hc a
        rw [hsplit] at ha ⊢
        have hrne : r ≠ [] := by
          rintro rfl
          rw [List.append_nil, endsWord_of_isWord hwne hw] at ha
          cases ha
        have hlength : w.length + r.length = a.length + 1 := by
          rw [← List.length_append, ← hsplit, List.length_cons]
        have hwpos := List.length_pos_of_ne_nil hwne
        rw [endsWord_append hrne] at ha
        rw [List.append_assoc, segments_wordRun_hit hwne hw hr,
          segments_wordRun_hit hwne hw (by rwa [beginsWord_append hrne]),
          ih r.length (by omega) ha rfl, List.cons_append]
      · rw [Bool.not_eq_true] at hc
        have ha : endsWord a = false := by
          rcases eq_or_ne a [] with rfl | hne
          · rfl
          · rwa [← List.singleton_append, endsWord_append hne] at ha
        rw [List.cons_append, segments_wordRun_kept hc, segments_wordRun_kept hc,
          ih a.length (by omega) ha rfl, List.cons_append]

/-- A match ends where no character of words comes next. -/
theorem isWord_of_matchLength?_wordRun {run after : Text} (hne : run ≠ [])
    (h : wordRun.matchLength? (run ++ after) = some run.length) :
    (∀ c ∈ run, Unicode.isWord c) ∧ beginsWord after = false := by
  obtain ⟨c, run, rfl⟩ := List.exists_cons_of_ne_nil hne
  rw [List.cons_append, matchLength?_wordRun_cons, Option.ite_none_right_eq_some,
    Option.some.injEq, ← List.cons_append] at h
  obtain ⟨htake, hdrop⟩ := List.append_inj
    (List.takeWhile_append_dropWhile (p := Unicode.isWord) (l := c :: run ++ after)) h.2
  rw [← htake, ← hdrop]
  exact ⟨List.all_eq_true.1 List.all_takeWhile, beginsWord_dropWhile _⟩

/-- Where a match begins, no character of words stands in front. -/
theorem endsWord_of_segments_wordRun {t run : Text} {segs after : List Segment}
    (h : wordRun.segments t = segs ++ .hit run :: after) : endsWord (spelled segs) = false := by
  have hmatch := matchLength?_of_hit h
  have hbegins : beginsWord (spelled (.hit run :: after)) = true := by
    rw [spelled_hit, beginsWord_append hmatch.1]
    obtain ⟨c, run, rfl⟩ := List.exists_cons_of_ne_nil hmatch.1
    exact (isWord_of_matchLength?_wordRun hmatch.1 hmatch.2).1 c (List.mem_cons_self ..)
  rcases List.eq_nil_or_concat' segs with rfl | ⟨init, s, rfl⟩
  · rfl
  rw [List.append_assoc, List.singleton_append] at h
  cases s with
  | kept c =>
    rw [spelled_append, endsWord_append (by simp)]
    show Unicode.isWord c = false
    by_contra hc
    rw [Bool.not_eq_false] at hc
    have hkept := matchLength?_of_kept h
    rw [matchLength?_wordRun_cons, if_pos hc, List.takeWhile_cons, if_pos hc,
      List.length_cons] at hkept
    exact hkept _ rfl
  | hit other =>
    obtain ⟨hne, hother⟩ := matchLength?_of_hit h
    rw [(isWord_of_matchLength?_wordRun hne hother).2] at hbegins
    cases hbegins

/-- **The matches are the maximal runs of word characters.** -/
theorem mem_placedHits_wordRun_iff {t run : Text} {start : Nat} :
    (start, run) ∈ wordRun.placedHits t
      ↔ ∃ before after, t = before ++ run ++ after ∧ before.length = start
        ∧ IsRun before run after := by
  constructor
  · intro h
    obtain ⟨segs, after, hsegs, hstart⟩ := exists_of_mem_placed h
    obtain ⟨hne, hmatch⟩ := matchLength?_of_hit hsegs
    obtain ⟨hword, hafter⟩ := isWord_of_matchLength?_wordRun hne hmatch
    refine ⟨spelled segs, spelled after, ?_, by omega, hne, hword,
      endsWord_of_segments_wordRun hsegs, hafter⟩
    have hspelled : spelled (wordRun.segments t) = t := spell_segments wordRun t
    rw [← hspelled, hsegs]
    simp
  · rintro ⟨before, after, rfl, rfl, hne, hword, hbefore, hafter⟩
    have hspelled : spelled (wordRun.segments before) = before := spell_segments wordRun before
    rw [placedHits, List.append_assoc, segments_wordRun_append hbefore,
      segments_wordRun_hit hne hword hafter, placed_append, hspelled, Nat.zero_add]
    exact List.mem_append_right _ (List.mem_cons_self ..)

/-! ## The bytes next to a run -/

/-- **The byte in front of a place shows a backslash or an opening brace.** -/
theorem opensArgument_iff (before after : Text) :
    opensArgument (Utf8.encode (before ++ after)).toArray (Utf8.encode before).length = true
      ↔ before.getLast? = some '\\' ∨ before.getLast? = some '{' := by
  have hbackslash : (0x5C : UInt8) = Utf8.asciiByte '\\' := by decide
  have hbrace : (0x7B : UInt8) = Utf8.asciiByte '{' := by decide
  rw [opensArgument, hbackslash, hbrace, List.getElem?_toArray]
  rcases eq_or_ne before [] with rfl | hne
  · simp [Utf8.encode]
  · have hpos := Utf8.length_encode_pos hne
    rw [Bool.and_eq_true, Bool.or_eq_true, beq_iff_eq, beq_iff_eq, decide_eq_true_eq,
      Utf8.byte_before_eq_iff (by decide) hne, Utf8.byte_before_eq_iff (by decide) hne,
      and_iff_right hpos]

/-- **The byte behind a place shows a closing brace.** -/
theorem closesArgument_iff (before after : Text) :
    closesArgument (Utf8.encode (before ++ after)).toArray (Utf8.encode before).length = true
      ↔ after.head? = some '}' := by
  have hbrace : (0x7D : UInt8) = Utf8.asciiByte '}' := by decide
  rw [closesArgument, hbrace, List.getElem?_toArray, beq_iff_eq,
    Utf8.byte_behind_eq_iff (by decide)]

/-! ## The walk -/

/-- Whether a run is a token between two texts. -/
structure IsToken (before run after : Text) : Prop extends IsRun before run after where
  /-- No backslash stands directly in front. -/
  not_command : before.getLast? ≠ some '\\'
  /-- No opening brace stands directly in front. -/
  not_opened : before.getLast? ≠ some '{'
  /-- No closing brace stands directly behind. -/
  not_closed : after.head? ≠ some '}'

/-- Whether the bytes next to a match at a place of a text let it be a token. -/
def isFree (t : Text) (place : Nat × Text) : Bool :=
  let bytes := (Utf8.encode t).toArray
  let start := (Utf8.encode (t.take place.1)).length
  !(opensArgument bytes start || closesArgument bytes (start + (Utf8.encode place.2).length))

/-- The tokens of a text with the places where they begin. -/
def tokenPlaces (t : Text) : List (Nat × Text) :=
  (wordRun.placedHits t).filter (isFree t)

/-- Tokens with their positions, if the first one has position `p`. -/
def numbered (p : UInt32) (places : List (Nat × Text)) : List (Text × UInt32) :=
  places.mapIdx fun i place => (place.2, p + UInt32.ofNat i)

theorem numbered_cons (p : UInt32) (place : Nat × Text) (places : List (Nat × Text)) :
    numbered p (place :: places) = (place.2, p) :: numbered (p + 1) places := by
  have hone (i : Nat) : p + UInt32.ofNat (i + 1) = p + 1 + UInt32.ofNat i := by
    rw [UInt32.ofNat_add, UInt32.add_comm (UInt32.ofNat i), UInt32.add_assoc]
    rfl
  rw [numbered, List.mapIdx_cons]
  simp only [hone]
  show (place.2, p + 0) :: _ = _
  rw [UInt32.add_zero]
  rfl

variable {t before : Text} {p : UInt32} {found : List (Text × UInt32)}

theorem step_kept (bytes : Array UInt8) (c : Char) :
    TokenWalk.step bytes ⟨(Utf8.encode before).length, p, found⟩ (.kept c)
      = ⟨(Utf8.encode (before ++ [c])).length, p, found⟩ := by
  rw [Utf8.encode_append, List.length_append]
  rfl

/-- A match becomes a token if the bytes next to it allow it. -/
theorem step_hit {run after : Text} (ht : t = before ++ (run ++ after)) :
    TokenWalk.step (Utf8.encode t).toArray ⟨(Utf8.encode before).length, p, found⟩ (.hit run)
      = if isFree t (before.length, run) then
          ⟨(Utf8.encode (before ++ run)).length, p + 1, (run, p) :: found⟩
        else ⟨(Utf8.encode (before ++ run)).length, p, found⟩ := by
  have htake : t.take before.length = before := by rw [ht, List.take_left]
  rw [isFree, htake, Utf8.encode_append, List.length_append, TokenWalk.step]
  simp only [text_hit]
  by_cases hmarked : (opensArgument (Utf8.encode t).toArray (Utf8.encode before).length
      || closesArgument (Utf8.encode t).toArray
        ((Utf8.encode before).length + (Utf8.encode run).length)) = true
  · simp [hmarked]
  · simp [hmarked]

/-- **A walk finds the tokens in order and numbers them as it goes.** -/
theorem foldl_step {segs : List Segment} (ht : t = before ++ spelled segs) :
    (segs.foldl (TokenWalk.step (Utf8.encode t).toArray)
        ⟨(Utf8.encode before).length, p, found⟩).found
      = (numbered p ((placed before.length segs).filter (isFree t))).reverse ++ found := by
  induction segs generalizing before p found with
  | nil => rfl
  | cons s segs ih =>
    rw [List.foldl_cons]
    cases s with
    | kept c =>
      rw [step_kept, ih (by simpa using ht), List.length_append]
      rfl
    | hit run =>
      rw [spelled_hit] at ht
      rw [step_hit ht, placed, List.filter_cons]
      split
      · rw [ih (by simpa using ht), numbered_cons, List.length_append]
        simp
      · rw [ih (by simpa using ht), List.length_append]

theorem tokenize_eq (t : Text) : tokenize t = numbered 0 (tokenPlaces t) := by
  have hspelled : t = [] ++ spelled (wordRun.segments t) := (spell_segments wordRun t).symm
  have hwalk : ((wordRun.segments t).foldl (TokenWalk.step (Utf8.encode t).toArray) {}).found
      = (numbered 0 (tokenPlaces t)).reverse ++ [] := foldl_step hspelled
  rw [tokenize, hwalk, List.append_nil, List.reverse_reverse]

/-! ## Which runs are tokens -/

theorem isFree_iff {run after : Text} (ht : t = before ++ run ++ after) :
    isFree t (before.length, run) = true
      ↔ before.getLast? ≠ some '\\' ∧ before.getLast? ≠ some '{' ∧ after.head? ≠ some '}' := by
  have htake : t.take before.length = before := by
    rw [ht, List.append_assoc, List.take_left]
  have hopens := opensArgument_iff before (run ++ after)
  have hcloses := closesArgument_iff (before ++ run) after
  rw [← List.append_assoc, ← ht] at hopens
  rw [← ht, Utf8.encode_append, List.length_append] at hcloses
  rw [isFree, htake, Bool.not_eq_true', Bool.or_eq_false_iff, ← Bool.not_eq_true, hopens,
    ← Bool.not_eq_true, hcloses, not_or, and_assoc]

theorem mem_tokenPlaces_iff {run : Text} {start : Nat} :
    (start, run) ∈ tokenPlaces t
      ↔ ∃ before after, t = before ++ run ++ after ∧ before.length = start
        ∧ IsToken before run after := by
  rw [tokenPlaces, List.mem_filter, mem_placedHits_wordRun_iff]
  constructor
  · rintro ⟨⟨before, after, ht, rfl, hrun⟩, hfree⟩
    obtain ⟨hcommand, hopened, hclosed⟩ := (isFree_iff ht).1 hfree
    exact ⟨before, after, ht, rfl, hrun, hcommand, hopened, hclosed⟩
  · rintro ⟨before, after, ht, rfl, hrun, hcommand, hopened, hclosed⟩
    exact ⟨⟨before, after, ht, rfl, hrun⟩, (isFree_iff ht).2 ⟨hcommand, hopened, hclosed⟩⟩

/-- Tokens stand one behind the other. -/
theorem pairwise_tokenPlaces (t : Text) :
    (tokenPlaces t).Pairwise fun a b => a.1 < b.1 := by
  have hplaced : (wordRun.placedHits t).Pairwise fun a b => a.1 < b.1 := by
    refine (pairwise_placed 0 (wordRun.segments t)).imp_of_mem fun {a b} ha hb hle => ?_
    obtain ⟨_, _, _, _, hrun⟩ := mem_placedHits_wordRun_iff.1 ha
    have hpos := List.length_pos_of_ne_nil hrun.ne_nil
    omega
  exact hplaced.filter _

/-- **The tokens are the maximal runs of word characters without marks next to them.** They come in
the order of the text, each once, and have the positions 0, 1, 2 and so on, as far as these fit 32
bits. Which runs are left out is read off single bytes, and at every place of the text these show
exactly the marks that stand there. -/
theorem tokenize_places (t : Text) :
    ∃ places : List (Nat × Text),
      places.Pairwise (fun a b => a.1 < b.1) ∧
      (∀ start run, (start, run) ∈ places ↔ ∃ before after, t = before ++ run ++ after
        ∧ before.length = start ∧ IsToken before run after) ∧
      tokenize t = places.mapIdx (fun i place => (place.2, UInt32.ofNat i)) ∧
      ((tokenize t).length < 2 ^ 32 →
        (tokenize t).map (fun token => token.2.toNat) = List.range (tokenize t).length) ∧
      ∀ before after, t = before ++ after →
        (opensArgument (Utf8.encode t).toArray (Utf8.encode before).length = true
          ↔ before.getLast? = some '\\' ∨ before.getLast? = some '{') ∧
        (closesArgument (Utf8.encode t).toArray (Utf8.encode before).length = true
          ↔ after.head? = some '}') := by
  have htokens : tokenize t = (tokenPlaces t).mapIdx fun i place => (place.2, UInt32.ofNat i) := by
    rw [tokenize_eq, numbered]
    simp only [UInt32.zero_add]
  refine ⟨tokenPlaces t, pairwise_tokenPlaces t, fun _ _ => mem_tokenPlaces_iff, htokens, ?_, ?_⟩
  · intro hfew
    rw [htokens, List.length_mapIdx] at hfew ⊢
    refine List.ext_getElem (by simp) fun i hi hrange => ?_
    have hlt : i < 2 ^ 32 := by
      rw [List.length_range] at hrange
      omega
    simp [UInt32.toNat_ofNat_of_lt' hlt]
  · rintro before after rfl
    exact ⟨opensArgument_iff before after, closesArgument_iff before after⟩

/-- Characters of two bytes next to the marks: three tokens are left, numbered without gaps. -/
theorem tokenize_places_of_multibyte_text :
    let t := "é\\ç \x7bü ô\x7d ñ_1 π".toList
    tokenize t = [("é".toList, 0), ("ñ_1".toList, 1), ("π".toList, 2)] ∧
      (tokenize t).length < 2 ^ 32 ∧ (tokenize t).map (fun token => token.2.toNat) = [0, 1, 2] := by
  intro t
  have htokens : tokenize t = [("é".toList, 0), ("ñ_1".toList, 1), ("π".toList, 2)] := by
    decide +kernel
  have hfew : (tokenize t).length < 2 ^ 32 := by
    rw [htokens]
    decide
  obtain ⟨_, -, -, -, hpositions, -⟩ := tokenize_places t
  refine ⟨htokens, hfew, ?_⟩
  rw [hpositions hfew, htokens]
  rfl

end TexCensus
