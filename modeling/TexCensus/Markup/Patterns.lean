import TexCensus.Pattern.Basic

/-!
# LaTeX patterns

The patterns that structure counting and cleaning share. All of them are heuristics on flat text:
a group ends at its first closing brace, an environment at its first end, and nothing nests.
-/

namespace TexCensus.Markup

open Pattern

/-! ## Groups -/

/-- A group in braces on one line, up to the first closing brace. -/
def bracedGroup : Pattern :=
  all [literal ['{'], lazy .inline, literal ['}']]

/-- A group in brackets on one line, up to the first closing bracket that lets the rest match. -/
def bracketedGroup : Pattern :=
  all [literal ['['], lazy .inline, literal [']']]

/-! ## Commands -/

/-- A command with its backslash. -/
def command : Pattern :=
  seq (literal ['\\']) (greedyPlus .word)

/-- An included picture with its options and path. -/
def includeGraphics : Pattern :=
  all [literal "\\includegraphics".toList, optional bracketedGroup, bracedGroup]

/-- A label with its key. -/
def label : Pattern :=
  all [literal "\\label".toList, bracedGroup]

/-- An index entry. -/
def indexEntry : Pattern :=
  all [literal "\\index".toList, bracedGroup]

/-- A citation, by key or by author, with its group if it has one. Longer command names are no
citations. -/
def citation : Pattern :=
  all [literal "\\cite".toList, optional (literal "author".toList), wordEnd, optional bracedGroup]

/-- A cross reference with its groups if it has them. -/
def crossReference : Pattern :=
  all [literal ['\\'], optional (literal "auto".toList), literal "ref".toList, wordEnd,
    optional bracketedGroup, optional bracedGroup]

/-- An included listing in one programming language. -/
def inputListing (language : Text) : Pattern :=
  seq (literal ("\\inputminted\x7b".toList ++ language ++ ['}'])) bracedGroup

/-! ## Equations -/

/-- An equation between dollars, single or double at either end. Taking both kinds at once keeps a
stray dollar from turning every later pair inside out. -/
def dollarEquation : Pattern :=
  all [optional (literal ['$']), literal ['$'], lazyPlus .any, literal ['$'],
    optional (literal ['$'])]

/-- An inline equation in escaped parentheses, on one line. -/
def parenEquation : Pattern :=
  all [literal ['\\', '('], lazyPlus .inline, literal ['\\', ')']]

/-- A display equation in escaped brackets. -/
def bracketEquation : Pattern :=
  all [literal ['\\', '['], lazy .any, literal ['\\', ']']]

/-! ## Environments -/

/-- A mark of an environment, starred or not: its keyword and its name in braces. -/
def environmentMark (keyword name : String) : Pattern :=
  all [literal (keyword.toList ++ ['{'] ++ name.toList), optional (literal ['*']), literal ['}']]

/-- A whole environment, up to its first end. -/
def environment (name : String) : Pattern :=
  all [environmentMark "\\begin" name, lazy .any, environmentMark "\\end" name]

/-- The beginning of any environment, with options before the name if there are any. -/
def environmentBegin : Pattern :=
  all [literal "\\begin".toList, optional bracketedGroup, literal ['{'], greedyPlus .word,
    optional (literal ['*']), literal ['}']]

/-- The beginning of a numbered equation. -/
def equationBegin : Pattern :=
  environmentMark "\\begin" "equation"

/-- The beginning of a group of subequations, in singular or plural. -/
def subequationsBegin : Pattern :=
  all [literal "\\begin\x7bsubequation".toList, optional (literal ['s']),
    optional (literal ['*']), literal ['}']]

/-! ## Names and keys inside matches -/

/-- The name in the beginning of an environment, without its star: the run of word characters in
front of the closing brace. -/
def environmentName (begin_ : Text) : Text :=
  -- Read from the end, because options may stand in front of the name.
  ((begin_.reverse.dropWhile fun c => c = '}' || c = '*').takeWhile Unicode.isWord).reverse

/-- The group of a citation with its braces, empty if it has none. -/
def citationGroup (cite : Text) : Text :=
  cite.dropWhile (· ≠ '{')

end TexCensus.Markup
