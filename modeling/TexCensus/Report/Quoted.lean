import TexCensus.Text.Basic
import TexCensus.Unicode.Standalone

/-!
# Keys in quotes

Ranked views show keys between double quotes. A character that ends the quotes, breaks the line or
has no visible form of its own is escaped, so that what stands between the quotes can be seen and
told apart.
-/

namespace TexCensus.Report

/-- A character of a key between quotes. -/
def quotedChar (c : Char) : Text :=
  if c = '"' then ['\\', '"']
  else if c = '\\' then ['\\', '\\']
  else if c = '\n' then ['\\', 'n']
  else if c = '\r' then ['\\', 'r']
  else if c = '\t' then ['\\', 't']
  else if c = '\x00' then ['\\', '0']
  else if Unicode.standsAlone c then [c]
  else "\\u\x7b".toList ++ hexadecimal c.toNat ++ ['\x7d']

/-- A key between quotes. -/
def quoted (key : Text) : Text :=
  '"' :: key.flatMap quotedChar ++ ['"']

end TexCensus.Report
