/-!
# Numbers of limited width

Numbers in documents and on the command line have to fit a number of bits. Unsigned numbers use all
bits for their value; signed ones give up one bit for the sign, and there is one more of them below
zero than above.
-/

namespace TexCensus

/-- How many values so many bits have. -/
def bitValues (bits : Nat) : Nat :=
  Nat.pow 2 bits

/-- What so many bits hold of a natural number: its highest digits are lost. -/
def wrapped (bits n : Nat) : Nat :=
  n % bitValues bits

/-- A number that fits is held as it is. -/
theorem wrapped_of_lt {bits n : Nat} (h : n < bitValues bits) : wrapped bits n = n :=
  Nat.mod_eq_of_lt h

/-- Whether a natural number fits so many bits. -/
def fitsUnsigned (bits n : Nat) : Bool :=
  n < bitValues bits

/-- A number that is cut to so many bits fits them. -/
theorem fitsUnsigned_wrapped (bits n : Nat) : fitsUnsigned bits (wrapped bits n) = true :=
  decide_eq_true (Nat.mod_lt n (Nat.pow_pos (Nat.zero_lt_succ 1)))

/-- Whether an integer fits so many bits with its sign. -/
def fitsSigned (bits : Nat) (i : Int) : Bool :=
  -(bitValues (bits - 1) : Int) ≤ i && i < bitValues (bits - 1)

/-- Whether an integer fits so many bits, either with its sign or, if it has none, without. -/
def fitsBits (bits : Nat) (i : Int) : Bool :=
  fitsSigned bits i || (0 ≤ i && fitsUnsigned bits i.toNat)

end TexCensus
