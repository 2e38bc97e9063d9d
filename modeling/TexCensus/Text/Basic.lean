/-!
# Text

A text is the list of its characters. Splitting and joining live here, in the form that every
module of the library shares.

`splitOn` always gives at least one part, and joining the parts with the same separator gives the
text back (`joinWith_splitOn`), so a text and its list of lines carry the same information.
-/

namespace TexCensus

/-- A text, character by character. -/
abbrev Text := List Char

/-- Texts are hashed character by character. -/
instance : Hashable Text :=
  @instHashableList Char instHashableChar

/-! ## Splitting and joining -/

/-- Puts a character in front of the first part. -/
def consFirst (c : Char) : List Text → List Text
  | [] => [[c]]
  | part :: parts => (c :: part) :: parts

/-- The parts of a text between the occurrences of a separator. -/
def splitOn (sep : Char) (t : Text) : List Text :=
  t.foldr (fun c parts => if c = sep then [] :: parts else consFirst c parts) [[]]

@[simp] theorem splitOn_nil (sep : Char) : splitOn sep [] = [[]] := rfl

theorem splitOn_cons (sep c : Char) (t : Text) :
    splitOn sep (c :: t) = if c = sep then [] :: splitOn sep t else consFirst c (splitOn sep t) :=
  rfl

theorem splitOn_ne_nil (sep : Char) (t : Text) : splitOn sep t ≠ [] := by
  cases t with
  | nil => simp
  | cons c t =>
    rw [splitOn_cons]
    split
    · simp
    · cases splitOn sep t <;> simp [consFirst]

/-- Joins parts with a separator between neighbours. -/
def joinWith (sep : Text) (parts : List Text) : Text :=
  List.intercalate sep parts

@[simp] theorem joinWith_nil (sep : Text) : joinWith sep [] = [] := by
  simp [joinWith, List.intercalate]

@[simp] theorem joinWith_singleton (sep part : Text) : joinWith sep [part] = part := by
  simp [joinWith, List.intercalate]

theorem joinWith_cons_cons (sep part next : Text) (parts : List Text) :
    joinWith sep (part :: next :: parts) = part ++ sep ++ joinWith sep (next :: parts) := by
  simp [joinWith, List.intercalate]

theorem joinWith_consFirst (sep : Text) (c : Char) {parts : List Text} (h : parts ≠ []) :
    joinWith sep (consFirst c parts) = c :: joinWith sep parts := by
  match parts with
  | [part] => simp [consFirst]
  | part :: next :: parts => simp [consFirst, joinWith_cons_cons]

/-- **Splitting loses nothing.** -/
theorem joinWith_splitOn (sep : Char) (t : Text) : joinWith [sep] (splitOn sep t) = t := by
  induction t with
  | nil => simp
  | cons c t ih =>
    rw [splitOn_cons]
    split
    · next h =>
      have hne := splitOn_ne_nil sep t
      match hparts : splitOn sep t with
      | [] => exact absurd hparts hne
      | part :: parts =>
        rw [joinWith_cons_cons, ← hparts, ih, h]
        simp
    · rw [joinWith_consFirst _ _ (splitOn_ne_nil sep t), ih]

/-- The lines of a text: the parts between line feeds. -/
def lines (t : Text) : List Text :=
  splitOn '\n' t

/-- Joins lines with a line feed between neighbours. -/
def unlines (ls : List Text) : Text :=
  joinWith ['\n'] ls

/-! ## Numbers -/

/-- The decimal digits of a natural number. -/
def decimal (n : Nat) : Text :=
  Nat.toDigits 10 n

/-- The decimal form of an integer, with a minus sign below zero. -/
def decimalInt : Int → Text
  | .ofNat n => decimal n
  | .negSucc n => '-' :: decimal (n + 1)

/-- The number that decimal digits name. -/
def digitsValue (digits : Text) : Nat :=
  digits.foldl (fun n c => n * 10 + (c.toNat - '0'.toNat)) 0

/-- The number that a text names if it consists of decimal digits, one at least. -/
def decimalValue? (t : Text) : Option Nat :=
  if t.isEmpty || !t.all Char.isDigit then none else some (digitsValue t)

/-- The hexadecimal digits of a natural number, in lower case. -/
def hexadecimal (n : Nat) : Text :=
  Nat.toDigits 16 n

/-- The value of a hexadecimal digit of either case. -/
def hexValue? (c : Char) : Option Nat :=
  if c.isDigit then some (c.toNat - '0'.toNat)
  else if 'a' ≤ c && c ≤ 'f' then some (c.toNat - 'a'.toNat + 10)
  else if 'A' ≤ c && c ≤ 'F' then some (c.toNat - 'A'.toNat + 10)
  else none

/-! ## Beginnings -/

/-- What follows a given beginning, or `none` if the text begins otherwise. -/
def dropStart? : Text → Text → Option Text
  | [], t => some t
  | _ :: _, [] => none
  | c :: start, d :: t => if c = d then dropStart? start t else none

theorem dropStart?_eq_some_iff {start t rest : Text} :
    dropStart? start t = some rest ↔ t = start ++ rest := by
  fun_induction dropStart? start t with
  | case1 t => simp [eq_comm]
  | case2 => simp
  | case3 c start t ih => simpa using ih
  | case4 c start d t h => simp [Ne.symm h]

end TexCensus
