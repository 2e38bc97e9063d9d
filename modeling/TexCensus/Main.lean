import TexCensus.Command.Run

/-!
# The command

Looks at the files that a run can ask for, runs the command on them and carries out what it
decided: writes the files that changed, prints and exits.
-/

namespace TexCensus.Disk

/-- The name under which the disk knows a location. -/
def nameOf (location : Location) : String :=
  String.ofList ('/' :: joinWith ['/'] location)

/-- What kind of thing has a name on the disk, if there is anything. Links are followed. -/
def kind? (name : String) : IO (Option IO.FS.FileType) := do
  try return some (← ((← IO.currentDir) / name).metadata).type
  catch _ => return none

/-- The contents of a file. -/
def contents (name : String) : IO Bytes := do
  return (← IO.FS.readBinFile name).toList

/-- The folders below a folder and the sources in them. Links are left out. -/
partial def sourceTree (name : String) : IO FileTree := do
  let mut entries := #[]
  for entry in ← ((← IO.currentDir) / name).readDir do
    let below := name ++ "/" ++ entry.fileName
    let key := entry.fileName.toList
    match (← ((← IO.currentDir) / below).symlinkMetadata).type with
    | .dir => entries := entries.push (key, ← sourceTree below)
    | .file =>
      if Command.isSource [key] then entries := entries.push (key, .file (← contents below))
    | _ => pure ()
  return .folder entries.toList

/-- Files that know what is at a location. -/
def look (files : Files) (location : Location) : IO Files := do
  if (files.root.at? location).isSome then return files
  let found (node : FileTree) : Files := { files with root := .put node location files.root }
  match ← kind? (nameOf location) with
  | none => return files
  | some .dir => return found .empty
  | some .file => return found (.file (← contents (nameOf location)))
  | some _ => return found (.file [])

/-- Files that know what is on the way along a path. -/
def lookAlong (files : Files) (path : Path) : IO Files := do
  let mut known := files
  let mut location : Location := if path.isAbsolute then [] else files.working
  for part in path.parts do
    if part = ['.', '.'] then location := location.dropLast
    else if !Path.stays part then
      location := location ++ [part]
      known ← look known location
  return known

/-- Files that know the sources below a path. -/
def lookBelow (files : Files) (path : Path) : IO Files := do
  let files ← lookAlong files path
  match files.walk path with
  | .error _ => return files
  | .ok trail =>
    match files.nodeAt trail with
    | .file _ => return files
    | .folder _ =>
      let location := Files.locationOf trail
      let tree ← sourceTree (nameOf location)
      return { files with root := .put tree location files.root }

/-- What a run with given options can ask for. -/
def view (o : Command.Options) : IO Files := do
  let working := (splitOn '/' (← IO.currentDir).toString.toList).filter (!·.isEmpty)
  let mut files : Files := { root := .put .empty working .empty, working }
  files ← lookBelow files o.input
  -- The settings have to be read here already, because they may name one more file.
  for path in o.config.toList ++ o.output.toList ++ o.trace.toList do
    files ← lookAlong files path
  if let some (.ok settings) := o.config.map (Settings.load files) then
    for path in settings.stopwordsPath.toList do
      files ← lookAlong files path
  return files

/-- Writes the file at a path if it is not as it was. -/
def update (before after : Files) (path : Path) : IO Unit := do
  if let some bytes := after.bytesAt? path then
    unless before.bytesAt? path = some bytes do
      IO.FS.writeBinFile (String.ofList path) ⟨bytes.toArray⟩

end TexCensus.Disk

/-- Runs the command as its arguments say. -/
def main (words : List String) : IO UInt32 := do
  let arguments := TexCensus.Command.Arguments.ofWords? (words.map String.toList)
  match arguments.bind TexCensus.Command.Arguments.options? with
  | none =>
    let name := String.ofList TexCensus.Command.commandName
    IO.eprintln ("Usage: " ++ name ++ " [OPTIONS] <INPUT>")
    return 2
  | some options =>
    let files ← TexCensus.Disk.view options
    let outcome := TexCensus.Command.run files options
    for line in outcome.log do
      IO.eprintln (String.ofList line)
    -- Nothing is printed unless all files could be written.
    for path in options.trace.toList ++ options.output.toList do
      TexCensus.Disk.update files outcome.files path
    IO.print (String.ofList outcome.stdout)
    match outcome.ending with
    | .failed cause => IO.eprintln ("Error: " ++ String.ofList cause.message)
    | .brokenOff => IO.eprintln "Error: a record has a date that no calendar year names"
    | .finished => pure ()
    return outcome.ending.exitCode.toUInt32
