import TexCensus.Data.Value

/-!
# Unquoted TOML values

Flags, integers, fractions and moments are written without quotes. Digits may be grouped with an
underscore between two digits. A moment is a date, a time of day, or both with or without a
distance from universal time; dates have to exist in the calendar.

An integer needs at most 128 bits, and a fraction must not be too large for double precision.
Fractions and moments are kept as they are written.
-/

namespace TexCensus.Toml

/-! ## Numbers -/

/-- The digits of a text without the underscores that group them. -/
def grouped? (isDigit : Char → Bool) (t : Text) : Option Text :=
  let groups := splitOn '_' t
  if groups.all fun g => !g.isEmpty && g.all isDigit then some groups.flatten else none

/-- The digits of a decimal integer, which has no needless zero in front. -/
def wholeDigits? (t : Text) : Option Text :=
  if t.head? = some '0' && t.length ≠ 1 then none else grouped? Char.isDigit t

/-- The sign at the front of a text, if there is one, and what follows it. -/
def splitSign : Text → Option Char × Text
  | '+' :: rest => (some '+', rest)
  | '-' :: rest => (some '-', rest)
  | t => (none, t)

/-- The number that digits of a base name. -/
def baseValue? (base : Nat) (t : Text) : Option Nat := do
  let isDigit (c : Char) : Bool := (hexValue? c).any (· < base)
  let digits ← grouped? isDigit t
  let values ← digits.mapM hexValue?
  return values.foldl (fun v d => v * base + d) 0

/-- The integer that a text is, of any size. -/
def unboundedInteger? : Text → Option Int
  | '0' :: 'x' :: rest => (baseValue? 16 rest).map Int.ofNat
  | '0' :: 'o' :: rest => (baseValue? 8 rest).map Int.ofNat
  | '0' :: 'b' :: rest => (baseValue? 2 rest).map Int.ofNat
  | t => do
    let (sign, rest) := splitSign t
    let magnitude : Int := digitsValue (← wholeDigits? rest)
    return if sign = some '-' then -magnitude else magnitude

/-- The integer that a text is. -/
def integer? (t : Text) : Option Int := do
  let i ← unboundedInteger? t
  if fitsBits 128 i then some i else none

/-- The power of ten that an exponent names, given what follows its letter. -/
def exponent? (t : Text) : Option Int := do
  let (sign, rest) := splitSign t
  let power : Int := digitsValue (← grouped? Char.isDigit rest)
  return if sign = some '-' then -power else power

/-- The least natural number that rounds to `2 ^ 1024` in double precision. -/
def firstTooLarge : Nat :=
  bitValues 1024 - bitValues 970

/-- Whether `digits` times a power of ten is too large for double precision. -/
def tooLarge (digits : Text) (power : Int) : Bool :=
  let significant := digits.dropWhile (· = '0')
  let size := significant.length + power
  -- The size decides far from the border, so that no huge power of ten is computed.
  if significant.isEmpty || size < 300 then false
  else if 320 < size then true
  else if 0 ≤ power then firstTooLarge ≤ digitsValue significant * Nat.pow 10 power.toNat
  else firstTooLarge * Nat.pow 10 (-power).toNat ≤ digitsValue significant

/-- Whether a text is a fraction: an integer followed by a point and digits, by an exponent, or by
both. -/
def isFraction (t : Text) : Bool :=
  let (_, rest) := splitSign t
  let isPart (c : Char) : Bool := c.isDigit || c == '_'
  let whole := rest.takeWhile isPart
  let rest := rest.dropWhile isPart
  let (point, rest) := match rest with
    | '.' :: rest => (some (rest.takeWhile isPart), rest.dropWhile isPart)
    | rest => (none, rest)
  let power := match rest with
    | [] => if point.isSome then some 0 else none
    | c :: rest => if c = 'e' || c = 'E' then exponent? rest else none
  match wholeDigits? whole, (point.elim (some []) (grouped? Char.isDigit)), power with
  | some whole, some fraction, some power =>
    !tooLarge (whole ++ fraction) (power - fraction.length)
  | _, _, _ => false

/-- Whether a text is infinity or no number, signed or not. -/
def isSpecial (t : Text) : Bool :=
  let (_, rest) := splitSign t
  rest = "inf".toList || rest = "nan".toList

/-! ## Moments -/

/-- The number that exactly `n` digits at the front of a text name, and what follows them. -/
def fixedDigits? (n : Nat) (t : Text) : Option (Nat × Text) := do
  let digits := t.takeWhile Char.isDigit
  if digits.length = n then some (digitsValue digits, t.drop n) else none

/-- How many days a month has. -/
def daysInMonth (year month : Nat) : Nat :=
  if month = 2 then
    if year % 4 = 0 ∧ (year % 100 ≠ 0 ∨ year % 400 = 0) then 29 else 28
  else if month = 4 ∨ month = 6 ∨ month = 9 ∨ month = 11 then 30
  else 31

/-- What follows a date at the front of a text. -/
def behindDate? (t : Text) : Option Text := do
  let (year, rest) ← fixedDigits? 4 t
  let (month, rest) ← fixedDigits? 2 (← dropStart? ['-'] rest)
  let (day, rest) ← fixedDigits? 2 (← dropStart? ['-'] rest)
  if 1 ≤ month ∧ month ≤ 12 ∧ 1 ≤ day ∧ day ≤ daysInMonth year month then some rest else none

/-- What follows the seconds of a time, which may be missing and may have a fraction. -/
def behindSeconds? : Text → Option Text
  | ':' :: rest => do
    let (second, rest) ← fixedDigits? 2 rest
    if second ≤ 60 then
      match rest with
      | '.' :: rest =>
        if rest.takeWhile Char.isDigit = [] then none else some (rest.dropWhile Char.isDigit)
      | rest => some rest
    else none
  | t => some t

/-- What follows hours and minutes. -/
def behindMinutes? (t : Text) : Option Text := do
  let (hour, rest) ← fixedDigits? 2 t
  let (minute, rest) ← fixedDigits? 2 (← dropStart? [':'] rest)
  if hour ≤ 23 ∧ minute ≤ 59 then some rest else none

/-- What follows a time of day at the front of a text. -/
def behindTime? (t : Text) : Option Text := do
  behindSeconds? (← behindMinutes? t)

/-- Whether a text is a distance from universal time. -/
def isOffset : Text → Bool
  | [c] => c == 'Z' || c == 'z'
  | c :: rest => (c == '+' || c == '-') && behindMinutes? rest = some []
  | [] => false

/-- Whether a text is a date. -/
def isDate (t : Text) : Bool :=
  behindDate? t = some []

/-- Whether a text is a moment. -/
def isMoment (t : Text) : Bool :=
  match behindDate? t with
  | none => behindTime? t = some []
  | some [] => true
  | some (c :: rest) =>
    (c == 'T' || c == 't' || c == ' ') && match behindTime? rest with
      | none => false
      | some [] => true
      | some offset => isOffset offset

/-! ## All of them -/

/-- The value that is written without quotes. -/
def scalar? (t : Text) : Option Value :=
  if t = "true".toList then some (.bool true)
  else if t = "false".toList then some (.bool false)
  else match integer? t with
    | some i => some (.integer i)
    | none => if isFraction t || isSpecial t || isMoment t then some (.other t) else none

end TexCensus.Toml
