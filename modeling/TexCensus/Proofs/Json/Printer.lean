import TexCensus.Json.Printer
import TexCensus.Proofs.Json.Reader
import TexCensus.Proofs.Text.Numerals

/-!
# Printed texts are read back

What the printer writes falls into the tokens it was written from: a quoted text into one token
(`Json.Token.ofText_quoted`), an integer into one (`Json.Token.ofText_decimalInt`), and the lines of
a container into those of its parts with commas between them (`Json.Token.ofText_block`). Together
with the readings of arrays and objects this reads printed values back (`Json.ReadBack`).
-/

namespace TexCensus.Json

namespace Token

/-! ## Quoted texts -/

variable {acc t rest : Text} {used : Nat}

/-- A control character is named by its number. -/
theorem escaped_control {c : Char} (hc : c < ' ') :
    escaped ('u' :: '0' :: '0' :: Nat.digitChar (c.toNat / 16) :: Nat.digitChar (c.toNat % 16) :: t)
      = .ok (c, 5) := by
  have hlt : c.toNat < 32 := hc
  have hhigh := hexValue?_digitChar (c.toNat / 16) (by omega)
  have hlow := hexValue?_digitChar (c.toNat % 16) (by omega)
  have hzero : hexValue? '0' = some 0 := rfl
  have hdigits : fourDigits
      ('0' :: '0' :: Nat.digitChar (c.toNat / 16) :: Nat.digitChar (c.toNat % 16) :: t)
        = .ok c.toNat := by
    simp only [fourDigits, hzero, hhigh, hlow]
    congr 1
    omega
  have hnamed : namedChar
      ('0' :: '0' :: Nat.digitChar (c.toNat / 16) :: Nat.digitChar (c.toNat % 16) :: t)
        = .ok (c, 4) := by
    have hplain : isLowHalf c.toNat = false ∧ isHighHalf c.toNat = false := by
      simp only [isLowHalf, isHighHalf, Bool.and_eq_false_iff, decide_eq_false_iff_not]
      omega
    unfold namedChar
    refine bind_eq_ok_iff.2 ⟨c.toNat, hdigits, ?_⟩
    simp only [hplain.1, hplain.2]
    show Except.ok (Char.ofNat c.toNat, 4) = _
    rw [Char.ofNat_toNat]
  unfold escaped
  simp only [if_true, hnamed]
  rfl

/-- An escape by a letter is undone. -/
theorem escaped_short {letter meant : Char} (hletter : letter ≠ 'u')
    (h : shortEscape? letter = some meant) : escaped (letter :: t) = .ok (meant, 1) := by
  unfold escaped
  simp only [hletter, if_false, h]

/-- **A character is read back** from what is written for it inside quotes. -/
theorem quotedOnto_escapedChar (c : Char) :
    quotedOnto acc used (escapedChar c ++ rest)
      = quotedOnto (c :: acc) (used + (escapedChar c).length) rest := by
  have hshort {letter : Char} (hletter : letter ≠ 'u') (h : shortEscape? letter = some c) :
      quotedOnto acc used ('\\' :: letter :: rest) = quotedOnto (c :: acc) (used + 2) rest :=
    quotedOnto_escape (escaped_short hletter h)
  unfold escapedChar
  -- Seven characters have a letter of their own, the other control characters are numbered, and the
  -- rest stand for themselves.
  split
  · next h => subst h; exact hshort (by decide) rfl
  split
  · next h => subst h; exact hshort (by decide) rfl
  split
  · next h => subst h; exact hshort (by decide) rfl
  split
  · next h => subst h; exact hshort (by decide) rfl
  split
  · next h => subst h; exact hshort (by decide) rfl
  split
  · next h => subst h; exact hshort (by decide) rfl
  split
  · next h => subst h; exact hshort (by decide) rfl
  split
  · next hcontrol => exact quotedOnto_escape (escaped_control hcontrol)
  · next hquote hescape _ _ _ _ _ hcontrol => exact quotedOnto_plain hquote hescape hcontrol

theorem quotedOnto_flatMap (t rest : Text) :
    quotedOnto acc used (t.flatMap escapedChar ++ '"' :: rest)
      = .ok (acc.reverse ++ t, used + (t.flatMap escapedChar).length + 1) := by
  induction t generalizing acc used with
  | nil => rw [List.append_nil]; exact quotedOnto_quote
  | cons c t ih =>
    rw [List.flatMap_cons, List.append_assoc, quotedOnto_escapedChar, ih, List.length_append,
      List.reverse_cons, List.append_assoc, ← Nat.add_assoc]
    rfl

/-- **A quoted text is one token**, whatever characters are in it. -/
theorem ofText_quoted (t : Text) : ofText (quoted t) = [scalar (.text t)] := by
  have hvalue : valueAt '"' (t.flatMap escapedChar ++ ['"'])
      = .ok (scalar (.text t), (t.flatMap escapedChar).length + 1) := by
    unfold valueAt
    rw [if_pos rfl, quotedOnto_flatMap, Nat.zero_add]
    rfl
  show ofText ('"' :: (t.flatMap escapedChar ++ ['"'])) = _
  rw [ofText_value rfl rfl hvalue, List.drop_of_length_le (by simp), ofText_nil]

/-! ## Integers -/

/-- A zero in front is the whole number. -/
theorem head?_decimal (n : Nat) (hn : 0 < n) : (decimal n).head? ≠ some '0' := by
  induction n using Nat.strongRecOn with
  | _ n ih =>
    unfold decimal
    rcases Nat.lt_or_ge n 10 with hlt | hge
    · rw [Nat.toDigits_of_lt_base hlt]
      simp
      omega
    · rw [Nat.toDigits_of_base_le (by decide) hge,
        List.head?_append_of_ne_nil _ Nat.toDigits_ne_nil]
      exact ih (n / 10) (by omega) (by omega)

theorem leadingDigits_decimal (n : Nat) : leadingDigits (decimal n) = .ok (decimal n, []) := by
  have hall : ∀ c ∈ decimal n, c.isDigit = true := fun c hc => isDigit_of_mem_decimal hc
  refine leadingDigits_eq_ok_iff.2 ⟨?_, ?_, Nat.toDigits_ne_nil⟩
  · simpa using @List.takeWhile_append_of_pos _ _ _ [] hall
  · simpa using @List.dropWhile_append_of_pos _ _ _ [] hall

/-- An integer without a sign or with a minus sign. -/
theorem numeral_decimal (negative : Bool) (n : Nat) :
    Numeral.ofText ((if negative then ['-'] else []) ++ decimal n)
      = .ok ({ negative, whole := decimal n, fraction := [], exponent := none }, []) := by
  have hzero : ¬((decimal n).head? = some '0' ∧ (decimal n).length ≠ 1) := by
    rintro ⟨hhead, hlength⟩
    rcases Nat.eq_zero_or_pos n with rfl | hn
    · exact hlength rfl
    · exact head?_decimal n hn hhead
  cases negative with
  | true =>
    exact Numeral.ofText_eq_ok_iff.2 ⟨rfl, hzero, [], [], leadingDigits_decimal n, rfl, rfl⟩
  | false =>
    have hsign : (decimal n).head? ≠ some '-' := by
      intro h
      cases isDigit_of_mem_decimal (List.mem_of_mem_head? h)
    refine Numeral.ofText_eq_ok_iff.2 ⟨?_, hzero, [], [], leadingDigits_decimal n, rfl, rfl⟩
    exact (decide_eq_false hsign).symm

/-- A number begins with a minus sign or a digit. -/
theorem head_of_numeral {c : Char} {n : Numeral} {left : Text}
    (h : Numeral.ofText (c :: t) = .ok (n, left)) : c = '-' ∨ c.isDigit = true := by
  obtain ⟨hnegative, -, behindWhole, -, hwhole, -⟩ := Numeral.ofText_eq_ok_iff.1 h
  by_cases hc : c = '-'
  · exact .inl hc
  · right
    have hpositive : n.negative = false := by simpa [hc] using hnegative
    rw [hpositive] at hwhole
    obtain ⟨hdigits, -, hne⟩ := leadingDigits_eq_ok_iff.1 hwhole
    cases hdigit : c.isDigit with
    | true => rfl
    | false => simp [hdigit, hne.symm] at hdigits

/-- Nothing else begins like a number. -/
theorem valueAt_of_number {c : Char} (hc : c = '-' ∨ c.isDigit = true) (t : Text) :
    isBlank c = false ∧ punctuation? c = none ∧ valueAt c t = numberAt c t := by
  have hne {d : Char} (hd : ¬(d = '-' ∨ d.isDigit = true)) : c ≠ d := by
    rintro rfl
    exact hd hc
  refine ⟨?_, ?_, ?_⟩
  · simp [isBlank, hne (d := ' ') (by decide), hne (d := '\n') (by decide),
      hne (d := '\t') (by decide), hne (d := '\r') (by decide)]
  · unfold punctuation?
    split <;> first | rfl | exact absurd hc (by decide)
  · unfold valueAt
    rw [if_neg (hne (by decide)), if_neg (hne (by decide)), if_neg (hne (by decide)),
      if_neg (hne (by decide)), if_pos (by simpa using hc)]

/-- A text that is a number is one token. -/
theorem ofText_numeral {n : Numeral} {v : Value} (h : Numeral.ofText t = .ok (n, []))
    (hv : n.value? = some v) : ofText t = [scalar v] := by
  have hspelling := Numeral.spelling_append h
  rw [List.append_nil] at hspelling
  cases t with
  | nil => cases h
  | cons c t =>
    obtain ⟨hblank, hpunctuation, hvalue⟩ := valueAt_of_number (head_of_numeral h) t
    have hnumber : valueAt c t = .ok (scalar v, t.length) := by
      rw [hvalue]
      refine bind_eq_ok_iff.2 ⟨_, h, ?_⟩
      simp only [hv, hspelling]
      rfl
    rw [ofText_value hblank hpunctuation hnumber, List.drop_length, ofText_nil]

theorem fitsBits_ofNat (n : Nat) : fitsBits 64 n = fitsUnsigned 64 n := by
  unfold fitsBits fitsSigned fitsUnsigned
  have : bitValues 63 ≤ bitValues 64 := by decide
  rw [Bool.eq_iff_iff]
  simp
  omega

/-- **An integer is one token** if it fits 64 bits. -/
theorem ofText_decimalInt {i : Int} (h : fitsBits 64 i = true) :
    ofText (decimalInt i) = [scalar (.integer i)] := by
  cases i with
  | ofNat n =>
    have hfits : fitsUnsigned 64 n = true := by rwa [← fitsBits_ofNat]
    refine ofText_numeral (numeral_decimal false n) ?_
    unfold Numeral.value?
    simp [digitsValue_decimal, hfits]
  | negSucc n =>
    have hfits : fitsSigned 64 (Int.negSucc n) = true := by
      simpa [fitsBits] using h
    refine ofText_numeral (numeral_decimal true (n + 1)) ?_
    unfold Numeral.value?
    have hsame : (-((n + 1 : Nat) : Int)) = Int.negSucc n := rfl
    simp only [digitsValue_decimal, hsame, hfits]
    rfl

/-! ## Lines -/

theorem ofText_newLine (depth : Nat) (t : Text) : ofText (newLine depth ++ t) = ofText t := by
  unfold newLine
  rw [List.cons_append, ofText_blank rfl]
  induction 2 * depth with
  | zero => rfl
  | succ n ih => rw [List.replicate_succ, List.cons_append, ofText_blank rfl, ih]

theorem endsNumber_newLine (depth : Nat) (t : Text) : EndsNumber (newLine depth ++ t) :=
  EndsNumber.cons (by decide)

/-- The lines of a container behind its first part. -/
def moreLines (depth : Nat) (parts : List Text) (rest : Text) : Text :=
  parts.flatMap (fun part => ',' :: newLine (depth + 1) ++ part) ++ (newLine depth ++ rest)

theorem moreLines_cons (depth : Nat) (part : Text) (parts : List Text) (rest : Text) :
    moreLines depth (part :: parts) rest
      = ',' :: (newLine (depth + 1) ++ (part ++ moreLines depth parts rest)) := by
  simp [moreLines]

theorem endsNumber_moreLines (depth : Nat) (parts : List Text) (rest : Text) :
    EndsNumber (moreLines depth parts rest) := by
  cases parts with
  | nil => exact endsNumber_newLine depth rest
  | cons part parts =>
    rw [moreLines_cons]
    exact EndsNumber.cons (by decide)

theorem ofText_moreLines (depth : Nat) {parts : List Text} (h : ∀ part ∈ parts, Sound part)
    (rest : Text) :
    ofText (moreLines depth parts rest)
      = (parts.map ofText).flatMap (comma :: ·) ++ ofText rest := by
  induction parts with
  | nil => exact ofText_newLine depth rest
  | cons part parts ih =>
    rw [List.forall_mem_cons] at h
    rw [moreLines_cons, ofText_punctuation rfl rfl, ofText_newLine,
      ofText_append h.1 (endsNumber_moreLines depth parts rest), ih h.2]
    simp

theorem joinWith_cons (sep part : Text) (parts : List Text) :
    joinWith sep (part :: parts) = part ++ parts.flatMap (sep ++ ·) := by
  induction parts generalizing part with
  | nil => simp
  | cons next parts ih =>
    rw [joinWith_cons_cons, ih, List.flatMap_cons, List.append_assoc, List.append_assoc]

/-- **The lines of a container are its parts with commas between them.** -/
theorem ofText_block (depth : Nat) {parts : List Text} (h : ∀ part ∈ parts, Sound part)
    (rest : Text) :
    ofText (block depth parts ++ rest) = commaSeparated (parts.map ofText) ++ ofText rest := by
  cases parts with
  | nil => rfl
  | cons part parts =>
    rw [List.forall_mem_cons] at h
    have hlines : block depth (part :: parts) ++ rest
        = newLine (depth + 1) ++ (part ++ moreLines depth parts rest) := by
      simp [block, joinWith_cons, moreLines]
    rw [hlines, ofText_newLine, ofText_append h.1 (endsNumber_moreLines depth parts rest),
      ofText_moreLines depth h.2, List.map_cons, commaSeparated, List.append_assoc]

/-- An array on lines. -/
theorem ofText_array (depth : Nat) {parts : List Text} (h : ∀ part ∈ parts, Sound part) :
    ofText (['['] ++ block depth parts ++ [']'])
      = openBracket :: (commaSeparated (parts.map ofText) ++ [closeBracket]) := by
  have hclose : ofText [']'] = [closeBracket] := by
    rw [ofText_punctuation rfl rfl, ofText_nil]
  rw [List.append_assoc, List.singleton_append, ofText_punctuation rfl rfl, ofText_block depth h,
    hclose]

end Token

/-! ## Objects -/

/-- A member as it is printed, given the text of its value. -/
def memberText (entry : Text × Text) : Text :=
  quoted entry.1 ++ [':', ' '] ++ entry.2

/-- An object as it is printed, given its keys and the texts of their values. -/
def objectText (entries : List (Text × Text)) : Text :=
  ['\x7b'] ++ block 0 (entries.map memberText) ++ ['\x7d']

theorem print_object (members : List (Text × Value)) :
    print (.object members) = objectText (members.map fun m => (m.1, printAt 1 m.2)) := by
  unfold print
  rw [printAt, objectText, List.map_map]
  rfl

namespace Token

theorem ofText_memberText (key : Text) {t : Text} :
    ofText (memberText (key, t)) = memberTokens key (ofText t) := by
  have hkey : Sound (quoted key) := by
    rw [Sound, ofText_quoted]
    simp [isSound]
  have hcolon : EndsNumber (':' :: ' ' :: t) := EndsNumber.cons (by decide)
  have hbehind : ofText (':' :: ' ' :: t) = colon :: ofText t := by
    rw [ofText_punctuation rfl rfl, ofText_blank rfl]
  show ofText (quoted key ++ [':', ' '] ++ t) = _
  rw [List.append_assoc]
  show ofText (quoted key ++ ':' :: ' ' :: t) = _
  rw [ofText_append hkey hcolon, ofText_quoted, hbehind]
  rfl

/-- **The members of a printed object** are those of its lines. -/
theorem ofText_objectText {entries : List (Text × Text)} (h : ∀ entry ∈ entries, Sound entry.2) :
    ofText (objectText entries)
      = openBrace :: (commaSeparated (entries.map fun e => memberTokens e.1 (ofText e.2))
          ++ [closeBrace]) := by
  have hsound : ∀ part ∈ entries.map memberText, Sound part := by
    intro part hpart
    obtain ⟨⟨key, t⟩, hentry, rfl⟩ := List.mem_map.1 hpart
    rw [Sound, ofText_memberText]
    intro token htoken
    rcases List.mem_cons.1 htoken with rfl | htoken
    · rfl
    rcases List.mem_cons.1 htoken with rfl | htoken
    · rfl
    exact h _ hentry token htoken
  have hclose : ofText ['\x7d'] = [closeBrace] := by
    rw [ofText_punctuation rfl rfl, ofText_nil]
  unfold objectText
  rw [List.append_assoc, List.singleton_append, ofText_punctuation rfl rfl,
    ofText_block 0 hsound, hclose, List.map_map]
  have hmember : ofText ∘ memberText = fun e : Text × Text => memberTokens e.1 (ofText e.2) :=
    funext fun e => ofText_memberText e.1
  rw [hmember]

end Token

/-! ## Values that are read back -/

/-- A text is one value, read where containers stand around it. -/
def IsValue (depth : Nat) (t : Text) (v : Value) : Prop :=
  Reader.value.run (.start depth) (Token.ofText t) = .ok (v, [])

theorem IsValue.sound {depth : Nat} {t : Text} {v : Value} (h : IsValue depth t v) :
    Token.Sound t :=
  Reader.isSound_of_run Place.step_broken h

/-- A value is read back where containers stand around it. -/
def ReadBack (depth : Nat) (v : Value) : Prop :=
  ∀ indent, IsValue depth (printAt indent v) v

namespace ReadBack

variable {depth : Nat}

theorem text (depth : Nat) (t : Text) : ReadBack depth (.text t) := by
  intro indent
  rw [IsValue, printAt, Token.ofText_quoted]
  rfl

theorem integer {i : Int} (h : fitsBits 64 i = true) (depth : Nat) :
    ReadBack depth (.integer i) := by
  intro indent
  rw [IsValue, printAt, Token.ofText_decimalInt h]
  rfl

/-- **An array of values that are read back is read back.** -/
theorem array {items : List Value} (hdepth : depth < maxDepth)
    (h : ∀ v ∈ items, ReadBack (depth + 1) v) : ReadBack depth (.array items) := by
  intro indent
  have hsound : ∀ part ∈ items.map (printAt (indent + 1)), Token.Sound part := by
    intro part hpart
    obtain ⟨v, hv, rfl⟩ := List.mem_map.1 hpart
    exact (h v hv (indent + 1)).sound
  have hparts : List.Forall₂
      (fun part v => Reader.value.run (.start (depth + 1)) part = .ok (v, []))
      ((items.map (printAt (indent + 1))).map Token.ofText) items := by
    rw [List.map_map, List.forall₂_map_left_iff, List.forall₂_same]
    exact fun v hv => h v hv (indent + 1)
  rw [IsValue, printAt, Token.ofText_array indent hsound]
  exact Reader.run_array hdepth hparts []

end ReadBack

/-- A printed array of texts is read by the reader of texts. -/
theorem run_texts_printAt (indent : Nat) (ts : List Text) :
    Reader.texts.run .start (Token.ofText (printAt indent (textsValue ts))) = .ok (ts, []) := by
  have htokens (t : Text) :
      Token.ofText (printAt (indent + 1) (.text t)) = [.scalar (.text t)] := by
    rw [printAt, Token.ofText_quoted]
  have hsound : ∀ part ∈ (ts.map Value.text).map (printAt (indent + 1)), Token.Sound part := by
    intro part hpart
    obtain ⟨v, hv, rfl⟩ := List.mem_map.1 hpart
    obtain ⟨t, -, rfl⟩ := List.mem_map.1 hv
    exact (ReadBack.text 0 t (indent + 1)).sound
  have hparts : ((ts.map Value.text).map (printAt (indent + 1))).map Token.ofText
      = ts.map fun t => [Token.scalar (.text t)] := by
    rw [List.map_map, List.map_map]
    exact List.map_congr_left fun t _ => htokens t
  rw [textsValue, printAt, Token.ofText_array indent hsound, hparts]
  exact Reader.run_texts ts []

end TexCensus.Json
