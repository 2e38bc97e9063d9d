import TexCensus.Data.Value
import TexCensus.Json.Fault

/-!
# Written numbers

A number in JSON: an optional minus sign, digits without a needless zero in front, an optional
fraction and an optional exponent.

An integer is a number without fraction and exponent that fits 64 bits, signed below zero and
unsigned from zero on. Any other number counts as a binary floating-point number of double
precision, and one that is too large for that is refused: the leading digits that fit 64 bits and
the power of ten are each rounded to 53 significant bits, and their product must lie below the
point from which values round up to `2 ^ 1024`.
-/

namespace TexCensus.Json

/-- The exponent of a written number. -/
structure Exponent where
  /-- The letter that begins it. -/
  mark : Char
  /-- Its sign, if there is one. -/
  sign : Option Char
  /-- Its digits. -/
  digits : Text
deriving DecidableEq, Repr

/-- The parts of a written number. -/
structure Numeral where
  /-- Whether a minus sign comes first. -/
  negative : Bool
  /-- The digits before the point. -/
  whole : Text
  /-- The digits behind the point; none of them if there is no point. -/
  fraction : Text
  /-- The exponent, if there is one. -/
  exponent : Option Exponent
deriving DecidableEq, Repr

/-- An exponent as it is written. -/
def Exponent.spelling (e : Exponent) : Text :=
  e.mark :: e.sign.toList ++ e.digits

/-- A number as it is written. -/
def Numeral.spelling (n : Numeral) : Text :=
  (if n.negative then ['-'] else []) ++ n.whole
    ++ (if n.fraction.isEmpty then [] else '.' :: n.fraction)
    ++ n.exponent.elim [] Exponent.spelling

/-! ## Reading -/

/-- The fault of a text that goes on with something else than what has to come next. -/
def unexpected (rest : Text) : Fault :=
  if rest.isEmpty then .cutShort else .malformed

/-- The digits at the front of a text, of which there has to be one, and what follows them. -/
def leadingDigits (t : Text) : Except Fault (Text × Text) :=
  match t.takeWhile Char.isDigit with
  | [] => .error (unexpected t)
  | digits => .ok (digits, t.dropWhile Char.isDigit)

/-- The fraction at the front of a text, empty if there is no point, and what follows it. -/
def leadingFraction : Text → Except Fault (Text × Text)
  | '.' :: rest => leadingDigits rest
  | t => .ok ([], t)

/-- The sign at the front of a text, if there is one, and what follows it. -/
def leadingSign : Text → Option Char × Text
  | '+' :: rest => (some '+', rest)
  | '-' :: rest => (some '-', rest)
  | t => (none, t)

/-- The exponent at the front of a text, if there is one, and what follows it. -/
def leadingExponent : Text → Except Fault (Option Exponent × Text)
  | mark :: rest =>
    if mark = 'e' || mark = 'E' then do
      let (sign, rest) := leadingSign rest
      let (digits, rest) ← leadingDigits rest
      return (some { mark, sign, digits }, rest)
    else .ok (none, mark :: rest)
  | [] => .ok (none, [])

/-- The number at the front of a text in its parts, and what follows it. -/
def Numeral.ofText (t : Text) : Except Fault (Numeral × Text) := do
  let negative := t.head? = some '-'
  let (whole, rest) ← leadingDigits (if negative then t.drop 1 else t)
  if whole.head? = some '0' && whole.length ≠ 1 then throw .malformed
  let (fraction, rest) ← leadingFraction rest
  let (exponent, rest) ← leadingExponent rest
  return ({ negative, whole, fraction, exponent }, rest)

/-! ## Range -/

/-- A natural number rounded to 53 significant bits, to the nearest and of two to the even one. -/
def roundedTo53Bits (n : Nat) : Nat :=
  let unit := bitValues (n.log2 - 52)
  let quotient := n / unit
  let remainder := n % unit
  if 2 * remainder > unit || (2 * remainder = unit && quotient % 2 = 1) then (quotient + 1) * unit
  else quotient * unit

/-- The least natural number that rounds to `2 ^ 1024`. -/
def firstTooLarge : Nat :=
  bitValues 1024 - bitValues 970

/-- Appends digits to a number as long as it fits 64 bits, and says how many are left. -/
def appendDigits (n : Nat) : Text → Nat × Nat
  | [] => (n, 0)
  | d :: ds =>
    let next := n * 10 + (d.toNat - '0'.toNat)
    if fitsUnsigned 64 next then appendDigits next ds else (n, ds.length + 1)

namespace Numeral

/-- The power of ten that the exponent part names. -/
def scale (n : Numeral) : Int :=
  match n.exponent with
  | none => 0
  | some e =>
    let power : Int := digitsValue e.digits
    if e.sign = some '-' then -power else power

/-- Whether the number is too large for double precision. -/
def tooLarge (n : Numeral) : Bool :=
  let (head, dropped) := appendDigits 0 n.whole
  let (significand, ignored) := appendDigits head n.fraction
  let power := dropped - (n.fraction.length - ignored) + n.scale
  -- Without a power of ten, 64 bits are far from too large.
  if significand = 0 || power < 0 then false
  else 308 < power
    || firstTooLarge ≤ roundedTo53Bits significand * roundedTo53Bits (Nat.pow 10 power.toNat)

/-- The value that is written, or `none` if it is too large. -/
def value? (n : Numeral) : Option Value :=
  let magnitude := digitsValue n.whole
  let isInteger := n.fraction.isEmpty && n.exponent.isNone
  if isInteger && !n.negative && fitsUnsigned 64 magnitude then some (.integer magnitude)
  else if isInteger && n.negative && 0 < magnitude && fitsSigned 64 (-magnitude) then
    some (.integer (-magnitude))
  else if n.tooLarge then none
  else some (.other n.spelling)

end Numeral

end TexCensus.Json
