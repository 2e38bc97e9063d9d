import TexCensus.Data.Bits
import TexCensus.Text.Basic

/-!
# Values of documents

What a document holds, whether it is written as JSON or as TOML. This library asks documents for
texts, flags, integers, lists and members, so a value of any other kind (a fraction, a moment in
time) is kept as it is written and fits no question.
-/

namespace TexCensus

/-- A value in a document. The members of an object keep their order and may repeat a key. -/
inductive Value where
  | null
  | bool (b : Bool)
  | integer (i : Int)
  | text (t : Text)
  | array (items : List Value)
  | object (members : List (Text × Value))
  /-- A value of another kind, as it is written. -/
  | other (spelling : Text)
deriving Repr

namespace Value

/-- The value of a natural number. -/
def ofNat (n : Nat) : Value :=
  integer n

/-- The flag that a value is. -/
def bool? : Value → Option Bool
  | bool b => some b
  | _ => none

/-- The integer that a value is. -/
def integer? : Value → Option Int
  | integer i => some i
  | _ => none

/-- The unsigned integer of 64 bits that a value is. -/
def natural? : Value → Option Nat
  | integer (.ofNat n) => if fitsUnsigned 64 n then some n else none
  | _ => none

/-- The text that a value is. -/
def text? : Value → Option Text
  | text t => some t
  | _ => none

/-- The items of the array that a value is. -/
def array? : Value → Option (List Value)
  | array items => some items
  | _ => none

/-- The members of the object that a value is. -/
def object? : Value → Option (List (Text × Value))
  | object members => some members
  | _ => none

/-- The texts of the array of texts that a value is. -/
def texts? (v : Value) : Option (List Text) := do
  (← v.array?).mapM text?

mutual

/-- Whether all integers in a value fit so many bits, each either with its sign or without. -/
def integersFit (bits : Nat) : Value → Bool
  | integer i => fitsBits bits i
  | array items => itemsFit bits items
  | object members => membersFit bits members
  | _ => true

/-- Whether all integers in the items of an array fit so many bits. -/
def itemsFit (bits : Nat) : List Value → Bool
  | [] => true
  | v :: rest => v.integersFit bits && itemsFit bits rest

/-- Whether all integers in the members of an object fit so many bits. -/
def membersFit (bits : Nat) : List (Text × Value) → Bool
  | [] => true
  | (_, v) :: rest => v.integersFit bits && membersFit bits rest

end

end Value

end TexCensus
