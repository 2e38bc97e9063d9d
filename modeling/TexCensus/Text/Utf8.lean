import TexCensus.Text.Basic

/-!
# UTF-8

Reading bytes as UTF-8 text. Decoding stops at the first fault and says where it is: either a
sequence that no text contains, with the number of bytes that are wrong for certain, or a sequence
that the end of the input cuts short.

The accepted sequences are those of the Unicode standard, table 3-7: no overlong forms, no
surrogates, nothing above U+10FFFF. After a lead byte only the second byte has a range of its own;
later bytes are plain continuation bytes.
-/

namespace TexCensus

/-- The contents of a file. -/
abbrev Bytes := List UInt8

namespace Utf8

/-- Why bytes are not UTF-8. -/
inductive Fault where
  /-- The `length` bytes from `index` on begin no character. -/
  | invalid (length index : Nat)
  /-- The bytes from `index` to the end begin a character but do not finish it. -/
  | incomplete (index : Nat)
deriving DecidableEq, Repr

/-- The fault in words. -/
def Fault.message : Fault → Text
  | .invalid length index =>
    "invalid utf-8 sequence of ".toList ++ decimal length ++ " bytes from index ".toList
      ++ decimal index
  | .incomplete index => "incomplete utf-8 byte sequence from index ".toList ++ decimal index

/-! ## One character -/

/-- Why one character could not be read: `some n` if its first `n` bytes are wrong, `none` if the
input ends too early. -/
abbrev StepFault := Option Nat

/-- Whether a byte continues a character. -/
def isContinuation (b : UInt8) : Bool :=
  0x80 ≤ b && b ≤ 0xBF

/-- The lowest and highest second byte after a lead byte of a sequence of three or four. -/
def secondRange (lead : UInt8) : UInt8 × UInt8 :=
  if lead = 0xE0 then (0xA0, 0xBF)
  else if lead = 0xED then (0x80, 0x9F)
  else if lead = 0xF0 then (0x90, 0xBF)
  else if lead = 0xF4 then (0x80, 0x8F)
  else (0x80, 0xBF)

/-- The six low bits that a continuation byte carries. -/
def payload (b : UInt8) : Nat :=
  b.toNat % 64

/-- The character at the front of `lead :: rest`, with the number of bytes of `rest` it takes. -/
def decodeChar (lead : UInt8) (rest : Bytes) : Except StepFault (Char × Nat) :=
  if lead < 0x80 then .ok (Char.ofNat lead.toNat, 0)
  else if lead < 0xC2 then .error (some 1)
  else if lead < 0xE0 then
    match rest with
    | [] => .error none
    | b₁ :: _ =>
      if isContinuation b₁ then .ok (Char.ofNat (lead.toNat % 32 * 64 + payload b₁), 1)
      else .error (some 1)
  else if lead < 0xF0 then
    match rest with
    | [] => .error none
    | b₁ :: rest =>
      if b₁ < (secondRange lead).1 || (secondRange lead).2 < b₁ then .error (some 1)
      else match rest with
        | [] => .error none
        | b₂ :: _ =>
          if isContinuation b₂ then
            .ok (Char.ofNat (lead.toNat % 16 * 4096 + payload b₁ * 64 + payload b₂), 2)
          else .error (some 2)
  else if lead < 0xF5 then
    match rest with
    | [] => .error none
    | b₁ :: rest =>
      if b₁ < (secondRange lead).1 || (secondRange lead).2 < b₁ then .error (some 1)
      else match rest with
        | [] => .error none
        | b₂ :: rest =>
          if !isContinuation b₂ then .error (some 2)
          else match rest with
            | [] => .error none
            | b₃ :: _ =>
              if isContinuation b₃ then
                .ok (Char.ofNat (lead.toNat % 8 * 262144 + payload b₁ * 4096
                  + payload b₂ * 64 + payload b₃), 3)
              else .error (some 3)
  else .error (some 1)

/-! ## Whole inputs -/

/-- Decodes bytes that begin at `index`, after the characters `acc` in reverse. -/
def decodeFrom (index : Nat) (acc : Text) : Bytes → Except Fault Text
  | [] => .ok acc.reverse
  | lead :: rest =>
    match decodeChar lead rest with
    | .ok (c, used) => decodeFrom (index + used + 1) (c :: acc) (rest.drop used)
    | .error (some length) => .error (.invalid length index)
    | .error none => .error (.incomplete index)
termination_by bytes => bytes.length
decreasing_by simp only [List.length_drop, List.length_cons]; omega

/-- The text that bytes encode. -/
def decode (bytes : Bytes) : Except Fault Text :=
  decodeFrom 0 [] bytes

/-- The bytes of a text. -/
def encode (t : Text) : Bytes :=
  t.flatMap String.utf8EncodeChar

theorem encode_append (s t : Text) : encode (s ++ t) = encode s ++ encode t := by
  simp [encode]

end Utf8

end TexCensus
