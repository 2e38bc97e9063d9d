import TexCensus.Text.Basic

/-!
# Numbers are read off their digits

A decimal text has the value of the number it was written for (`digitsValue_decimal`), with zeros in
front or without, so different numbers are written differently. The same holds of signed and of
hexadecimal numbers.
-/

namespace TexCensus

/-! ## Decimal numbers -/

theorem digitsValue_decimal (n : Nat) : digitsValue (decimal n) = n := by
  have h : digitsValue (decimal n) = Nat.ofDigitChars 10 (Nat.toDigits 10 n) 0 := by
    rw [Nat.ofDigitChars_eq_foldl]
    unfold digitsValue decimal
    congr 1
    funext m c
    rw [Nat.mul_comm]
  rw [h, Nat.ofDigitChars_ten_toDigits]

theorem isDigit_of_mem_decimal {n : Nat} {c : Char} (h : c ∈ decimal n) : c.isDigit = true :=
  Nat.isDigit_of_mem_toDigits (by decide) (by decide) h

theorem decimal_injective {m n : Nat} (h : decimal m = decimal n) : m = n := by
  rw [← digitsValue_decimal m, h, digitsValue_decimal]

/-- A character that is no digit stands in no decimal number. -/
theorem not_mem_decimal {c : Char} (hc : c.isDigit = false) (n : Nat) : c ∉ decimal n := by
  intro hmem
  rw [isDigit_of_mem_decimal hmem] at hc
  cases hc

/-- A number begins with a digit. -/
theorem exists_digit_decimal (n : Nat) :
    ∃ c rest, c.isDigit = true ∧ decimal n = c :: rest := by
  obtain ⟨c, rest, h⟩ := List.exists_cons_of_ne_nil (Nat.toDigits_ne_nil (n := n) (b := 10))
  exact ⟨c, rest, isDigit_of_mem_decimal (h ▸ List.mem_cons_self), h⟩

/-- Zeros in front do not count. -/
theorem digitsValue_replicate (k : Nat) (digits : Text) :
    digitsValue (List.replicate k '0' ++ digits) = digitsValue digits := by
  induction k with
  | zero => rfl
  | succ k ih => exact ih

theorem decimalInt_injective {i j : Int} (h : decimalInt i = decimalInt j) : i = j := by
  -- Only one of two numbers of different signs begins with a minus sign.
  have hsign (m n : Nat) : '-' :: decimal (n + 1) ≠ decimal m := by
    intro heq
    exact not_mem_decimal (by decide) m (heq ▸ List.mem_cons_self)
  cases i with
  | ofNat m =>
    cases j with
    | ofNat n => rw [decimal_injective h]
    | negSucc n => exact absurd h.symm (hsign m n)
  | negSucc m =>
    cases j with
    | ofNat n => exact absurd h (hsign n m)
    | negSucc n =>
      have hdigits := decimal_injective (List.cons.inj h).2
      rw [Nat.succ.inj hdigits]

/-- A signed number begins with a minus sign or a digit. -/
theorem exists_first_decimalInt (i : Int) :
    ∃ c rest, (c = '-' ∨ c.isDigit = true) ∧ decimalInt i = c :: rest := by
  cases i with
  | ofNat n =>
    obtain ⟨c, rest, hc, h⟩ := exists_digit_decimal n
    exact ⟨c, rest, .inr hc, h⟩
  | negSucc n => exact ⟨'-', decimal (n + 1), .inl rfl, rfl⟩

/-! ## Hexadecimal numbers -/

theorem hexValue?_digitChar : ∀ n < 16, hexValue? (Nat.digitChar n) = some n := by decide

theorem hexadecimal_of_lt {n : Nat} (h : n < 16) : hexadecimal n = [Nat.digitChar n] :=
  Nat.toDigits_of_lt_base h

theorem hexadecimal_of_le {n : Nat} (h : 16 ≤ n) :
    hexadecimal n = hexadecimal (n / 16) ++ [Nat.digitChar (n % 16)] :=
  Nat.toDigits_of_base_le (by decide) h

/-- Hexadecimal numbers have hexadecimal digits only. -/
theorem isSome_hexValue?_of_mem {n : Nat} {c : Char} (h : c ∈ hexadecimal n) :
    (hexValue? c).isSome = true := by
  induction n using Nat.strongRecOn with
  | _ n ih =>
    have hdigit {d : Nat} (hd : d < 16) (hc : c ∈ [Nat.digitChar d]) :
        (hexValue? c).isSome = true := by
      rw [List.mem_singleton.1 hc, hexValue?_digitChar d hd]
      rfl
    rcases Nat.lt_or_ge n 16 with hlt | hge
    · exact hdigit hlt (hexadecimal_of_lt hlt ▸ h)
    · rw [hexadecimal_of_le hge, List.mem_append] at h
      exact h.elim (ih (n / 16) (by omega)) (hdigit (Nat.mod_lt n (by decide)))

theorem hexadecimal_injective {m n : Nat} (h : hexadecimal m = hexadecimal n) : m = n := by
  have hvalue (n : Nat) :
      (hexadecimal n).foldl (fun v c => 16 * v + (hexValue? c).getD 0) 0 = n := by
    induction n using Nat.strongRecOn with
    | _ n ih =>
      rcases Nat.lt_or_ge n 16 with hlt | hge
      · simp [hexadecimal_of_lt hlt, hexValue?_digitChar n hlt]
      · have hlast := hexValue?_digitChar (n % 16) (Nat.mod_lt n (by decide))
        rw [hexadecimal_of_le hge, List.foldl_append, ih (n / 16) (by omega)]
        simp only [List.foldl_cons, List.foldl_nil, hlast, Option.getD_some]
        exact Nat.div_add_mod n 16
  rw [← hvalue m, h, hvalue]

end TexCensus
