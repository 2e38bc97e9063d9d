import TexCensus.Proofs.Text.Utf8Order

/-!
# ASCII characters among the bytes of a text

An ASCII character has one byte, and no other character has that byte among its own
(`Utf8.asciiByte_mem_encodeChar_iff`). So to look at the byte on either side of a place between two
characters is to look at the character there, as far as ASCII characters go
(`Utf8.byte_behind_eq_iff`, `Utf8.byte_before_eq_iff`).
-/

namespace TexCensus.Utf8

/-- The byte of an ASCII character. -/
def asciiByte (c : Char) : UInt8 :=
  UInt8.ofNat c.toNat

/-! ## One character -/

theorem encodeChar_of_ascii {c : Char} (h : c.toNat < 128) :
    String.utf8EncodeChar c = [asciiByte c] :=
  if_pos (Nat.le_of_lt_succ h)

theorem toNat_asciiByte {c : Char} (h : c.toNat < 128) : (asciiByte c).toNat = c.toNat :=
  UInt8.toNat_ofNat_of_lt' (Nat.lt_trans h (by decide))

theorem le_toNat_ofNat {n : Nat} (hle : 128 ≤ n) (hlt : n < 256) :
    128 ≤ (UInt8.ofNat n).toNat := by
  rwa [UInt8.toNat_ofNat_of_lt' hlt]

/-- In a sequence of several bytes every byte is above ASCII. -/
theorem le_of_mem_encodeChar {c : Char} (hc : 128 ≤ c.toNat) {b : UInt8}
    (hb : b ∈ String.utf8EncodeChar c) : 128 ≤ b.toNat := by
  have hmax : c.val.toNat < 1114112 := toNat_val_lt c
  have hval : c.val.toNat = c.toNat := rfl
  unfold String.utf8EncodeChar at hb
  simp only [hval] at hb hmax
  generalize c.toNat = m at *
  rw [if_neg (by omega)] at hb
  split at hb
  · simp only [List.mem_cons, List.not_mem_nil, or_false] at hb
    rcases hb with rfl | rfl <;> exact le_toNat_ofNat (by omega) (by omega)
  split at hb
  · simp only [List.mem_cons, List.not_mem_nil, or_false] at hb
    rcases hb with rfl | rfl | rfl <;> exact le_toNat_ofNat (by omega) (by omega)
  · simp only [List.mem_cons, List.not_mem_nil, or_false] at hb
    rcases hb with rfl | rfl | rfl | rfl <;> exact le_toNat_ofNat (by omega) (by omega)

/-- **The byte of an ASCII character belongs to no other character.** -/
theorem asciiByte_mem_encodeChar_iff {c d : Char} (h : d.toNat < 128) :
    asciiByte d ∈ String.utf8EncodeChar c ↔ c = d := by
  constructor
  · intro hmem
    have hbyte := toNat_asciiByte h
    by_cases hc : c.toNat < 128
    · rw [encodeChar_of_ascii hc, List.mem_singleton] at hmem
      refine Char.toNat_inj.1 ?_
      rw [← toNat_asciiByte hc, ← hmem, hbyte]
    · have hle := le_of_mem_encodeChar (Nat.le_of_not_lt hc) hmem
      omega
  · rintro rfl
    simp [encodeChar_of_ascii h]

theorem head?_encodeChar_eq_iff {c d : Char} (h : d.toNat < 128) :
    (String.utf8EncodeChar c).head? = some (asciiByte d) ↔ c = d := by
  constructor
  · exact fun hhead => (asciiByte_mem_encodeChar_iff h).1 (List.mem_of_mem_head? hhead)
  · rintro rfl
    simp [encodeChar_of_ascii h]

theorem getLast?_encodeChar_eq_iff {c d : Char} (h : d.toNat < 128) :
    (String.utf8EncodeChar c).getLast? = some (asciiByte d) ↔ c = d := by
  constructor
  · exact fun hlast => (asciiByte_mem_encodeChar_iff h).1 (List.mem_of_getLast? hlast)
  · rintro rfl
    simp [encodeChar_of_ascii h]

theorem encodeChar_ne_nil (c : Char) : String.utf8EncodeChar c ≠ [] := by
  simp

/-! ## Either end of a text -/

/-- A text begins with an ASCII character if its first byte is that character's. -/
theorem head?_encode_eq_iff {d : Char} (h : d.toNat < 128) (t : Text) :
    (encode t).head? = some (asciiByte d) ↔ t.head? = some d := by
  cases t with
  | nil => simp [encode]
  | cons c t =>
    rw [encode_cons, List.head?_append_of_ne_nil _ (encodeChar_ne_nil c),
      head?_encodeChar_eq_iff h, List.head?_cons, Option.some.injEq]

/-- A text ends with an ASCII character if its last byte is that character's. -/
theorem getLast?_encode_eq_iff {d : Char} (h : d.toNat < 128) (t : Text) :
    (encode t).getLast? = some (asciiByte d) ↔ t.getLast? = some d := by
  rcases List.eq_nil_or_concat' t with rfl | ⟨t, c, rfl⟩
  · simp [encode]
  · have hc : encode [c] = String.utf8EncodeChar c := by simp [encode]
    rw [encode_append, hc, List.getLast?_append_of_ne_nil _ (encodeChar_ne_nil c),
      getLast?_encodeChar_eq_iff h, List.getLast?_concat, Option.some.injEq]

/-! ## The bytes at a place -/

/-- The byte behind a place is that of an ASCII character if the character stands there. -/
theorem byte_behind_eq_iff {d : Char} (h : d.toNat < 128) (before after : Text) :
    (encode (before ++ after))[(encode before).length]? = some (asciiByte d)
      ↔ after.head? = some d := by
  rw [encode_append, List.getElem?_append_right (Nat.le_refl _), Nat.sub_self,
    ← List.head?_eq_getElem?, head?_encode_eq_iff h]

theorem length_encode_pos {t : Text} (hne : t ≠ []) : 0 < (encode t).length := by
  obtain ⟨c, t, rfl⟩ := List.exists_cons_of_ne_nil hne
  rw [encode_cons, List.length_append]
  exact Nat.add_pos_left (List.length_pos_of_ne_nil (encodeChar_ne_nil c)) _

/-- The byte in front of a place is that of an ASCII character if the character stands there. -/
theorem byte_before_eq_iff {d : Char} (h : d.toNat < 128) {before : Text} (hne : before ≠ [])
    (after : Text) :
    (encode (before ++ after))[(encode before).length - 1]? = some (asciiByte d)
      ↔ before.getLast? = some d := by
  rw [encode_append, List.getElem?_append_left (Nat.sub_lt (length_encode_pos hne) Nat.one_pos),
    ← List.getLast?_eq_getElem?, getLast?_encode_eq_iff h]

end TexCensus.Utf8
