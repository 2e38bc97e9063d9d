import Mathlib.Data.List.Nodup
import TexCensus.Proofs.Text.Delimited
import TexCensus.Report.Basic

/-!
# Ranked views are told apart

A key between quotes is written so that each escape stands for one character
(`selfDelimiting_quotedChar`) and the first quote that is not escaped ends the key
(`selfDelimiting_quoted`). So keys may hold quotes, commas and brackets, or be shaped like the end
of an entry: ranked views that look alike have the same entries (`rankedText_eq_iff`).
-/

namespace TexCensus.Report

/-! ## Characters between quotes -/

/-- The characters for which a letter behind a backslash stands. -/
def letterEscapes : List (Char × Char) :=
  [('"', '"'), ('\\', '\\'), ('\n', 'n'), ('\r', 'r'), ('\t', 't'), ('\x00', '0')]

theorem letterEscapes_nodup : (letterEscapes.map Prod.snd).Nodup := by decide

theorem letterEscapes_not_mem : 'u' ∉ letterEscapes.map Prod.snd := by decide

theorem mem_of_lookup_letterEscapes {c letter : Char}
    (h : letterEscapes.lookup c = some letter) : (c, letter) ∈ letterEscapes := by
  obtain ⟨before, after, hsplit, -⟩ := List.lookup_eq_some_iff.1 h
  exact hsplit ▸ List.mem_append_right _ List.mem_cons_self

/-- What stands behind the backslash of an escape. -/
def escapeBody (c : Char) : Text :=
  match letterEscapes.lookup c with
  | some letter => [letter]
  | none => ['u', '\x7b'] ++ (hexadecimal c.toNat ++ ['\x7d'])

/-- Whether a character is written as it is. -/
def isUnescaped (c : Char) : Bool :=
  (letterEscapes.lookup c).isNone && Unicode.standsAlone c

theorem quotedChar_eq (c : Char) :
    quotedChar c = if isUnescaped c then [c] else '\\' :: escapeBody c := by
  cases h : letterEscapes.lookup c with
  | some letter =>
    have hmem := mem_of_lookup_letterEscapes h
    simp only [letterEscapes, List.mem_cons, Prod.mk.injEq, List.not_mem_nil, or_false] at hmem
    rcases hmem with ⟨rfl, rfl⟩ | ⟨rfl, rfl⟩ | ⟨rfl, rfl⟩ | ⟨rfl, rfl⟩ | ⟨rfl, rfl⟩ | ⟨rfl, rfl⟩ <;>
      rfl
  | none =>
    have hne := List.lookup_eq_none_iff.1 h
    simp only [letterEscapes, List.forall_mem_cons, bne_iff_ne] at hne
    simp [quotedChar, isUnescaped, escapeBody, h, hne]

theorem selfDelimiting_hexadecimal :
    SelfDelimiting fun c : Char => hexadecimal c.toNat ++ ['\x7d'] :=
  selfDelimiting_of_mark
    (fun _ hmem => absurd (isSome_hexValue?_of_mem hmem) (by decide))
    fun _ _ h => Char.toNat_inj.1 (hexadecimal_injective h)

/-- **An escape shows which character it stands for and where it ends.** -/
theorem selfDelimiting_escapeBody : SelfDelimiting escapeBody := by
  have hletter {c d letter : Char} {s t : Text} (hc : letterEscapes.lookup c = some letter)
      (hd : letterEscapes.lookup d = none) : escapeBody c ++ s ≠ escapeBody d ++ t := by
    have hmem := List.mem_map_of_mem (f := Prod.snd) (mem_of_lookup_letterEscapes hc)
    rw [escapeBody, escapeBody, hc, hd]
    intro h
    exact letterEscapes_not_mem ((List.cons.inj h).1 ▸ hmem)
  intro c d s t h
  cases hc : letterEscapes.lookup c with
  | some letter =>
    cases hd : letterEscapes.lookup d with
    | some other =>
      rw [escapeBody, escapeBody, hc, hd] at h
      obtain ⟨rfl, hrest⟩ := List.cons.inj h
      have hsame := List.inj_on_of_nodup_map letterEscapes_nodup (mem_of_lookup_letterEscapes hc)
        (mem_of_lookup_letterEscapes hd) rfl
      exact ⟨congrArg Prod.fst hsame, hrest⟩
    | none => exact absurd h (hletter hc hd)
  | none =>
    cases hd : letterEscapes.lookup d with
    | some other => exact absurd h.symm (hletter hd hc)
    | none =>
      rw [escapeBody, escapeBody, hc, hd] at h
      exact selfDelimiting_hexadecimal.behind _ h

theorem ne_backslash_of_isUnescaped {c : Char} (h : isUnescaped c = true) : c ≠ '\\' := by
  rintro rfl
  cases h

/-- **A character between quotes shows which one it is and where it ends.** -/
theorem selfDelimiting_quotedChar : SelfDelimiting quotedChar := by
  intro c d s t h
  rw [quotedChar_eq, quotedChar_eq] at h
  split at h
  · next hc =>
    split at h
    · exact List.cons.inj h
    · exact absurd (List.cons.inj h).1 (ne_backslash_of_isUnescaped hc)
  · split at h
    · next hd => exact absurd (List.cons.inj h).1.symm (ne_backslash_of_isUnescaped hd)
    · exact selfDelimiting_escapeBody (List.cons.inj h).2

/-- No character between quotes begins with a quote. -/
theorem beginsOtherwise_quotedChar : BeginsOtherwise '"' quotedChar := by
  intro c
  rw [quotedChar_eq]
  split
  · next hc =>
    refine ⟨c, [], ?_, rfl⟩
    rintro rfl
    cases hc
  · exact ⟨'\\', escapeBody c, by decide, rfl⟩

/-! ## Entries and views -/

/-- **A key between quotes ends at the first quote that is not escaped.** -/
theorem selfDelimiting_quoted : SelfDelimiting quoted :=
  (selfDelimiting_quotedChar.flatMap beginsOtherwise_quotedChar).behind ['"']

example : quoted "a\", 1), (\"".toList = "\"a\\\", 1), (\\\"\"".toList := by decide

/-- An entry of a ranked view. -/
def rankedEntry (entry : Text × Nat) : Text :=
  ['('] ++ (quoted entry.1 ++ (", ".toList ++ (decimal entry.2 ++ [')'])))

theorem selfDelimiting_rankedEntry : SelfDelimiting rankedEntry := by
  have hcount : SelfDelimiting fun n => decimal n ++ [')'] := selfDelimiting_decimal (by decide)
  exact (selfDelimiting_quoted.append (hcount.behind ", ".toList)).behind ['(']

theorem rankedText_eq (f : Frequency Text) (n : Nat) :
    rankedText f n
      = ['['] ++ (joinWith ", ".toList ((f.mostCommon n).map rankedEntry) ++ [']']) := by
  rw [rankedText, List.append_assoc]
  congr 4
  funext entry
  simp only [rankedEntry, List.append_assoc]

/-- A list of entries between brackets. -/
theorem selfDelimiting_entries :
    SelfDelimiting fun entries : List (Text × Nat) =>
      ['['] ++ (joinWith ", ".toList (entries.map rankedEntry) ++ [']']) :=
  (selfDelimiting_rankedEntry.joinWith (fun _ => ⟨'(', _, by decide, rfl⟩) (by decide) [' ']).behind
    ['[']

/-- **Ranked views lose nothing.** Two of them look alike only if they have the same keys with the
same counts in the same order, whatever characters the keys have and however many of them are asked
for. -/
theorem rankedText_eq_iff (f g : Frequency Text) (m n : Nat) :
    rankedText f m = rankedText g n ↔ f.mostCommon m = g.mostCommon n := by
  rw [rankedText_eq, rankedText_eq]
  exact selfDelimiting_entries.injective.eq_iff

end TexCensus.Report
