import TexCensus.Settings.Basic
import TexCensus.Toml.Reader

/-!
# Where settings come from

Settings are written in TOML. A file of settings may name a file of stopwords; a relative path to
it starts in the folder of the settings.
-/

namespace TexCensus.Settings

/-- Reads settings. Corrections are checked at once. -/
def ofToml (t : Text) : Except SetupError Settings := do
  match (Toml.read? t).bind (ofMembers? .toml) with
  | none => throw .parseSettings
  | some settings =>
    checkCorrections settings.corrections
    return settings

/-- The settings with a relative path to stopwords seen from the folder of the settings. -/
def relativeTo (folder : Path) (s : Settings) : Settings :=
  { s with stopwordsPath := s.stopwordsPath.map fun path =>
      if Path.isAbsolute path then path else Path.inFolder folder path }

/-- Reads a file of settings. -/
def load (files : Files) (path : Path) : Except SetupError Settings := do
  match files.readText path with
  | .error fault => throw (.readSettings path fault)
  | .ok t => return (← ofToml t).relativeTo path.parent

end TexCensus.Settings
