import TexCensus.Text.Basic

/-!
# Arguments

What a call of the command says. An option is written `--name=value` or, in two words,
`--name value`; some options have a letter, too, and their value may follow it at once. A word that
is no option is the input, and so is every word behind `--`. Nothing may be said twice.

What the values mean is not looked at here but in `TexCensus.Command.Options`.
-/

namespace TexCensus.Command

/-- The options of a call as texts. -/
structure Arguments where
  /-- A file, or a folder with files. -/
  input : Option Text := none
  /-- A file of settings. -/
  config : Option Text := none
  /-- The format of the output. -/
  format : Option Text := none
  /-- A file for the output. -/
  output : Option Text := none
  /-- Whether each file has a record of its own, too. -/
  perFile : Bool := false
  /-- The revision. -/
  commit : Option Text := none
  /-- The time of the revision in seconds. -/
  date : Option Text := none
  /-- What changed. -/
  description : Option Text := none
  /-- How many keys ranked views show. -/
  top : Option Text := none
  /-- A file for the text after each pass. -/
  trace : Option Text := none
deriving DecidableEq, Repr

/-! ## Words -/

/-- An option that takes a value. -/
inductive ValueOption where
  | config
  | format
  | output
  | commit
  | date
  | description
  | top
  | trace
deriving DecidableEq, Repr

/-- All options that take a value. -/
def ValueOption.all : List ValueOption :=
  [config, format, output, commit, date, description, top, trace]

/-- The name behind two dashes. -/
def ValueOption.name : ValueOption → Text
  | config => "config".toList
  | format => "format".toList
  | output => "output".toList
  | commit => "commit".toList
  | date => "date".toList
  | description => "description".toList
  | top => "top".toList
  | trace => "trace".toList

/-- The letter behind one dash. -/
def ValueOption.letter? : ValueOption → Option Char
  | config => some 'c'
  | format => some 'f'
  | output => some 'o'
  | _ => none

/-- What a word of a call is by its form. -/
inductive Word where
  /-- The input. -/
  | input (t : Text)
  /-- An option, whose value may be in the same word. -/
  | option (o : ValueOption) (value : Option Text)
  /-- Each file has a record of its own. -/
  | perFile
  /-- No option follows. -/
  | noMoreOptions
  /-- Something that looks like an option and is none. -/
  | unknown
deriving DecidableEq, Repr

/-- The word that follows two dashes. -/
def Word.ofLong (t : Text) : Word :=
  let name := t.takeWhile (· != '=')
  let value := (t.drop name.length).tail?
  if name.isEmpty && value.isNone then noMoreOptions
  else if name = "per-file".toList && value.isNone then perFile
  else match ValueOption.all.find? (·.name = name) with
    | some o => option o value
    | none => unknown

/-- The word that follows one dash: a letter and perhaps a value. -/
def Word.ofShort (letter : Char) (t : Text) : Word :=
  match ValueOption.all.find? (·.letter? = some letter) with
  | some o => option o (if t.isEmpty then none else some ((dropStart? ['='] t).getD t))
  | none => unknown

/-- What a word is. One dash alone is an input. -/
def Word.ofText : Text → Word
  | '-' :: '-' :: t => ofLong t
  | '-' :: letter :: t => ofShort letter t
  | t => input t

/-! ## Reading words -/

namespace Arguments

/-- Whether an option has its value already. -/
def has (a : Arguments) : ValueOption → Bool
  | .config => a.config.isSome
  | .format => a.format.isSome
  | .output => a.output.isSome
  | .commit => a.commit.isSome
  | .date => a.date.isSome
  | .description => a.description.isSome
  | .top => a.top.isSome
  | .trace => a.trace.isSome

/-- Gives an option a value, in the place of an older one. -/
def set (a : Arguments) (value : Text) : ValueOption → Arguments
  | .config => { a with config := some value }
  | .format => { a with format := some value }
  | .output => { a with output := some value }
  | .commit => { a with commit := some value }
  | .date => { a with date := some value }
  | .description => { a with description := some value }
  | .top => { a with top := some value }
  | .trace => { a with trace := some value }

/-- Gives an option its value, once. -/
def give? (a : Arguments) (o : ValueOption) (value : Text) : Option Arguments :=
  if a.has o then none else some (a.set value o)

/-- Gives the input, once. -/
def giveInput? (a : Arguments) (value : Text) : Option Arguments :=
  if a.input.isSome then none else some { a with input := some value }

/-- Asks for a record of each file, once. -/
def givePerFile? (a : Arguments) : Option Arguments :=
  if a.perFile then none else some { a with perFile := true }

/-- What words say in addition to what was said before them. -/
def read? (a : Arguments) : List Text → Option Arguments
  | [] => some a
  | word :: rest =>
    match Word.ofText word with
    | .input t => do read? (← a.giveInput? t) rest
    | .perFile => do read? (← a.givePerFile?) rest
    | .option o (some value) => do read? (← a.give? o value) rest
    | .option o none =>
      match rest with
      | [] => none
      | value :: rest =>
        -- A value of its own may not look like an option.
        match Word.ofText value with
        | .input value => do read? (← a.give? o value) rest
        | _ => none
    | .noMoreOptions => rest.foldlM giveInput? a
    | .unknown => none

/-- What the words of a call say, or `none` if they do not make sense. -/
def ofWords? (words : List Text) : Option Arguments :=
  read? {} words

end Arguments

end TexCensus.Command
