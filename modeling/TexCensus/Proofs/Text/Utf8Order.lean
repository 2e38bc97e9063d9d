import Mathlib.Data.Char
import Mathlib.Data.List.Lex
import TexCensus.Text.Utf8

/-!
# The order of encoded texts

UTF-8 keeps the order of characters: the bytes of a lower character come before those of a higher
one, whatever follows (`Utf8.encodeChar_append_lt`). So encoded texts are in the order in which the
texts are by their characters (`Utf8.encode_lt_encode`).
-/

namespace TexCensus.Utf8

/-! ## One character -/

theorem ofNat_lt_ofNat_iff {m n : Nat} (hm : m < 256) (hn : n < 256) :
    UInt8.ofNat m < UInt8.ofNat n ↔ m < n := by
  rw [UInt8.lt_iff_toNat_lt, UInt8.toNat_ofNat_of_lt' hm, UInt8.toNat_ofNat_of_lt' hn]

theorem ofNat_eq_ofNat_iff {m n : Nat} (hm : m < 256) (hn : n < 256) :
    UInt8.ofNat m = UInt8.ofNat n ↔ m = n := by
  rw [← UInt8.toNat_inj, UInt8.toNat_ofNat_of_lt' hm, UInt8.toNat_ofNat_of_lt' hn]

/-- Numbers are compared by what stands before their last digit to the base 64 first. -/
theorem lt_iff_digit {m n : Nat} :
    m < n ↔ m / 64 < n / 64 ∨ m / 64 = n / 64 ∧ m % 64 < n % 64 := by
  omega

theorem toNat_val_lt (c : Char) : c.val.toNat < 1114112 := by
  rcases c.valid with h | h
  · exact Nat.lt_trans h (by decide)
  · exact h.2

/-- **The bytes of a lower character come before those of a higher one,** whatever follows. -/
theorem encodeChar_append_lt {c d : Char} (h : c < d) (s t : Bytes) :
    String.utf8EncodeChar c ++ s < String.utf8EncodeChar d ++ t := by
  have hlt : c.val.toNat < d.val.toNat := h
  have hmax := toNat_val_lt d
  unfold String.utf8EncodeChar
  simp only
  generalize c.val.toNat = m at *
  generalize d.val.toNat = n at *
  by_cases hfour : 0xffff < m
  · -- Both characters have four bytes, one for each digit to the base 64.
    rw [if_neg (by omega), if_neg (by omega), if_neg (by omega), if_neg (by omega),
      if_neg (by omega), if_neg (by omega)]
    simp only [List.cons_append, List.nil_append, List.cons_lt_cons_iff]
    simp (disch := omega) only [ofNat_lt_ofNat_iff, ofNat_eq_ofNat_iff]
    have hm₄ : m / 262144 % 8 = m / 64 / 64 / 64 := by omega
    have hn₄ : n / 262144 % 8 = n / 64 / 64 / 64 := by omega
    have hm₃ : m / 4096 = m / 64 / 64 := by omega
    have hn₃ : n / 4096 = n / 64 / 64 := by omega
    rw [hm₄, hn₄, hm₃, hn₃]
    rcases lt_iff_digit.1 hlt with hlt | ⟨heq₁, hlt⟩
    · rcases lt_iff_digit.1 hlt with hlt | ⟨heq₂, hlt⟩
      · rcases lt_iff_digit.1 hlt with hlt | ⟨heq₃, hlt⟩
        · omega
        · rw [heq₃]
          omega
      · rw [heq₂]
        omega
    · rw [heq₁]
      omega
  · -- Otherwise fewer bytes begin with a lower one, and as many have at most three digits.
    repeat' split
    all_goals simp only [List.cons_append, List.nil_append, List.cons_lt_cons_iff]
    all_goals simp (disch := omega) only [ofNat_lt_ofNat_iff, ofNat_eq_ofNat_iff]
    all_goals omega

/-! ## Texts -/

theorem encode_cons (c : Char) (t : Text) :
    encode (c :: t) = String.utf8EncodeChar c ++ encode t := List.flatMap_cons

/-- **Encoded texts are in the order of the texts.** -/
theorem encode_lt_encode {s t : Text} (h : s < t) : encode s < encode t := by
  induction s generalizing t with
  | nil =>
    cases t with
    | nil => exact absurd h (List.lt_irrefl _)
    | cons d t =>
      rw [encode_cons]
      cases hd : String.utf8EncodeChar d with
      | nil => exact absurd hd (by simp)
      | cons b bytes => exact List.nil_lt_cons _ _
  | cons c s ih =>
    cases t with
    | nil => exact absurd h (List.not_lt_nil _)
    | cons d t =>
      rw [encode_cons, encode_cons]
      rcases List.cons_lt_cons_iff.1 h with hlt | ⟨rfl, hrest⟩
      · exact encodeChar_append_lt hlt _ _
      · exact List.append_left_lt (ih hrest)

end TexCensus.Utf8
