import TexCensus.Text.Basic

/-!
# Comments

A percent sign starts a comment that runs to the end of its line, unless a backslash stands
directly before it. Line feeds are kept, so a text without comments has as many lines as before.
-/

namespace TexCensus

/-- The characters of a line, each with the character before it (a line feed before the first). -/
def withPrevious (line : Text) : List (Char × Char) :=
  line.zip ('\n' :: line)

/-- Whether a character with the given predecessor belongs to the line and starts no comment. -/
def keepsLine (c previous : Char) : Bool :=
  c != '%' || previous == '\\'

/-- A line without its comment: its longest beginning in which every percent sign directly follows
a backslash. -/
def uncommentLine (line : Text) : Text :=
  ((withPrevious line).takeWhile fun (c, previous) => keepsLine c previous).map Prod.fst

/-- A text without its comments. -/
def stripComments (t : Text) : Text :=
  unlines ((lines t).map uncommentLine)

end TexCensus
